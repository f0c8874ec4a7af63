/-!
# Pictures: flags

Short names of flags and the regions they belong to. A region is given by the two letters of a
country, or by the letters of a country and of a part of it.
-/

namespace Relocation.Picture

/-- The regions whose flags have a name. -/
def regions : List (String × String) :=
  [("afghanistan", "af"), ("albania", "al"), ("algeria", "dz"), ("american_samoa", "as"),
    ("andorra", "ad"), ("angola", "ao"), ("anguilla", "ai"), ("antarctica", "aq"),
    ("antigua_&_barbuda", "ag"), ("argentina", "ar"), ("armenia", "am"), ("aruba", "aw"),
    ("ascension_island", "ac"), ("australia", "au"), ("austria", "at"), ("azerbaijan", "az"),
    ("bahamas", "bs"), ("bahrain", "bh"), ("bangladesh", "bd"), ("barbados", "bb"),
    ("belarus", "by"), ("belgium", "be"), ("belize", "bz"), ("benin", "bj"), ("bermuda", "bm"),
    ("bhutan", "bt"), ("bolivia", "bo"), ("bosnia_&_herzegovina", "ba"), ("botswana", "bw"),
    ("bouvet_island", "bv"), ("brazil", "br"), ("british_indian_ocean_territory", "io"),
    ("british_virgin_islands", "vg"), ("brunei", "bn"), ("bulgaria", "bg"),
    ("burkina_faso", "bf"), ("burundi", "bi"), ("cambodia", "kh"), ("cameroon", "cm"),
    ("canada", "ca"), ("canary_islands", "ic"), ("cape_verde", "cv"),
    ("caribbean_netherlands", "bq"), ("cayman_islands", "ky"), ("central_african_republic", "cf"),
    ("ceuta_&_melilla", "ea"), ("chad", "td"), ("chile", "cl"), ("china", "cn"),
    ("christmas_island", "cx"), ("clipperton_island", "cp"), ("cocos_(keeling)_islands", "cc"),
    ("colombia", "co"), ("comoros", "km"), ("congo_-_brazzaville", "cg"),
    ("congo_-_kinshasa", "cd"), ("cook_islands", "ck"), ("costa_rica", "cr"), ("croatia", "hr"),
    ("cuba", "cu"), ("curaçao", "cw"), ("cyprus", "cy"), ("czechia", "cz"),
    ("côte_d’ivoire", "ci"), ("denmark", "dk"), ("diego_garcia", "dg"), ("djibouti", "dj"),
    ("dominica", "dm"), ("dominican_republic", "do"), ("ecuador", "ec"), ("egypt", "eg"),
    ("el_salvador", "sv"), ("england", "gbeng"), ("equatorial_guinea", "gq"), ("eritrea", "er"),
    ("estonia", "ee"), ("ethiopia", "et"), ("european_union", "eu"), ("falkland_islands", "fk"),
    ("faroe_islands", "fo"), ("fiji", "fj"), ("finland", "fi"), ("flag_for_afghanistan", "af"),
    ("flag_for_albania", "al"), ("flag_for_algeria", "dz"), ("flag_for_american_samoa", "as"),
    ("flag_for_andorra", "ad"), ("flag_for_angola", "ao"), ("flag_for_anguilla", "ai"),
    ("flag_for_antarctica", "aq"), ("flag_for_antigua_&_barbuda", "ag"),
    ("flag_for_argentina", "ar"), ("flag_for_armenia", "am"), ("flag_for_aruba", "aw"),
    ("flag_for_ascension_island", "ac"), ("flag_for_australia", "au"), ("flag_for_austria", "at"),
    ("flag_for_azerbaijan", "az"), ("flag_for_bahamas", "bs"), ("flag_for_bahrain", "bh"),
    ("flag_for_bangladesh", "bd"), ("flag_for_barbados", "bb"), ("flag_for_belarus", "by"),
    ("flag_for_belgium", "be"), ("flag_for_belize", "bz"), ("flag_for_benin", "bj"),
    ("flag_for_bermuda", "bm"), ("flag_for_bhutan", "bt"), ("flag_for_bolivia", "bo"),
    ("flag_for_bosnia_&_herzegovina", "ba"), ("flag_for_botswana", "bw"),
    ("flag_for_bouvet_island", "bv"), ("flag_for_brazil", "br"),
    ("flag_for_british_indian_ocean_territory", "io"), ("flag_for_british_virgin_islands", "vg"),
    ("flag_for_brunei", "bn"), ("flag_for_bulgaria", "bg"), ("flag_for_burkina_faso", "bf"),
    ("flag_for_burundi", "bi"), ("flag_for_cambodia", "kh"), ("flag_for_cameroon", "cm"),
    ("flag_for_canada", "ca"), ("flag_for_canary_islands", "ic"), ("flag_for_cape_verde", "cv"),
    ("flag_for_caribbean_netherlands", "bq"), ("flag_for_cayman_islands", "ky"),
    ("flag_for_central_african_republic", "cf"), ("flag_for_ceuta_&_melilla", "ea"),
    ("flag_for_chad", "td"), ("flag_for_chile", "cl"), ("flag_for_china", "cn"),
    ("flag_for_christmas_island", "cx"), ("flag_for_clipperton_island", "cp"),
    ("flag_for_cocos__islands", "cc"), ("flag_for_colombia", "co"), ("flag_for_comoros", "km"),
    ("flag_for_congo____brazzaville", "cg"), ("flag_for_congo____kinshasa", "cd"),
    ("flag_for_cook_islands", "ck"), ("flag_for_costa_rica", "cr"), ("flag_for_croatia", "hr"),
    ("flag_for_cuba", "cu"), ("flag_for_curaçao", "cw"), ("flag_for_cyprus", "cy"),
    ("flag_for_czech_republic", "cz"), ("flag_for_côte_d’ivoire", "ci"),
    ("flag_for_denmark", "dk"), ("flag_for_diego_garcia", "dg"), ("flag_for_djibouti", "dj"),
    ("flag_for_dominica", "dm"), ("flag_for_dominican_republic", "do"),
    ("flag_for_ecuador", "ec"), ("flag_for_egypt", "eg"), ("flag_for_el_salvador", "sv"),
    ("flag_for_equatorial_guinea", "gq"), ("flag_for_eritrea", "er"), ("flag_for_estonia", "ee"),
    ("flag_for_ethiopia", "et"), ("flag_for_european_union", "eu"),
    ("flag_for_falkland_islands", "fk"), ("flag_for_faroe_islands", "fo"),
    ("flag_for_fiji", "fj"), ("flag_for_finland", "fi"), ("flag_for_france", "fr"),
    ("flag_for_french_guiana", "gf"), ("flag_for_french_polynesia", "pf"),
    ("flag_for_french_southern_territories", "tf"), ("flag_for_gabon", "ga"),
    ("flag_for_gambia", "gm"), ("flag_for_georgia", "ge"), ("flag_for_germany", "de"),
    ("flag_for_ghana", "gh"), ("flag_for_gibraltar", "gi"), ("flag_for_greece", "gr"),
    ("flag_for_greenland", "gl"), ("flag_for_grenada", "gd"), ("flag_for_guadeloupe", "gp"),
    ("flag_for_guam", "gu"), ("flag_for_guatemala", "gt"), ("flag_for_guernsey", "gg"),
    ("flag_for_guinea", "gn"), ("flag_for_guinea__bissau", "gw"), ("flag_for_guyana", "gy"),
    ("flag_for_haiti", "ht"), ("flag_for_heard_&_mcdonald_islands", "hm"),
    ("flag_for_honduras", "hn"), ("flag_for_hong_kong", "hk"), ("flag_for_hungary", "hu"),
    ("flag_for_iceland", "is"), ("flag_for_india", "in"), ("flag_for_indonesia", "id"),
    ("flag_for_iran", "ir"), ("flag_for_iraq", "iq"), ("flag_for_ireland", "ie"),
    ("flag_for_isle_of_man", "im"), ("flag_for_israel", "il"), ("flag_for_italy", "it"),
    ("flag_for_jamaica", "jm"), ("flag_for_japan", "jp"), ("flag_for_jersey", "je"),
    ("flag_for_jordan", "jo"), ("flag_for_kazakhstan", "kz"), ("flag_for_kenya", "ke"),
    ("flag_for_kiribati", "ki"), ("flag_for_kosovo", "xk"), ("flag_for_kuwait", "kw"),
    ("flag_for_kyrgyzstan", "kg"), ("flag_for_laos", "la"), ("flag_for_latvia", "lv"),
    ("flag_for_lebanon", "lb"), ("flag_for_lesotho", "ls"), ("flag_for_liberia", "lr"),
    ("flag_for_libya", "ly"), ("flag_for_liechtenstein", "li"), ("flag_for_lithuania", "lt"),
    ("flag_for_luxembourg", "lu"), ("flag_for_macau", "mo"), ("flag_for_macedonia", "mk"),
    ("flag_for_madagascar", "mg"), ("flag_for_malawi", "mw"), ("flag_for_malaysia", "my"),
    ("flag_for_maldives", "mv"), ("flag_for_mali", "ml"), ("flag_for_malta", "mt"),
    ("flag_for_marshall_islands", "mh"), ("flag_for_martinique", "mq"),
    ("flag_for_mauritania", "mr"), ("flag_for_mauritius", "mu"), ("flag_for_mayotte", "yt"),
    ("flag_for_mexico", "mx"), ("flag_for_micronesia", "fm"), ("flag_for_moldova", "md"),
    ("flag_for_monaco", "mc"), ("flag_for_mongolia", "mn"), ("flag_for_montenegro", "me"),
    ("flag_for_montserrat", "ms"), ("flag_for_morocco", "ma"), ("flag_for_mozambique", "mz"),
    ("flag_for_myanmar", "mm"), ("flag_for_namibia", "na"), ("flag_for_nauru", "nr"),
    ("flag_for_nepal", "np"), ("flag_for_netherlands", "nl"), ("flag_for_new_caledonia", "nc"),
    ("flag_for_new_zealand", "nz"), ("flag_for_nicaragua", "ni"), ("flag_for_niger", "ne"),
    ("flag_for_nigeria", "ng"), ("flag_for_niue", "nu"), ("flag_for_norfolk_island", "nf"),
    ("flag_for_north_korea", "kp"), ("flag_for_northern_mariana_islands", "mp"),
    ("flag_for_norway", "no"), ("flag_for_oman", "om"), ("flag_for_pakistan", "pk"),
    ("flag_for_palau", "pw"), ("flag_for_palestinian_territories", "ps"),
    ("flag_for_panama", "pa"), ("flag_for_papua_new_guinea", "pg"), ("flag_for_paraguay", "py"),
    ("flag_for_peru", "pe"), ("flag_for_philippines", "ph"), ("flag_for_pitcairn_islands", "pn"),
    ("flag_for_poland", "pl"), ("flag_for_portugal", "pt"), ("flag_for_puerto_rico", "pr"),
    ("flag_for_qatar", "qa"), ("flag_for_romania", "ro"), ("flag_for_russia", "ru"),
    ("flag_for_rwanda", "rw"), ("flag_for_réunion", "re"), ("flag_for_samoa", "ws"),
    ("flag_for_san_marino", "sm"), ("flag_for_saudi_arabia", "sa"), ("flag_for_senegal", "sn"),
    ("flag_for_serbia", "rs"), ("flag_for_seychelles", "sc"), ("flag_for_sierra_leone", "sl"),
    ("flag_for_singapore", "sg"), ("flag_for_sint_maarten", "sx"), ("flag_for_slovakia", "sk"),
    ("flag_for_slovenia", "si"), ("flag_for_solomon_islands", "sb"), ("flag_for_somalia", "so"),
    ("flag_for_south_africa", "za"), ("flag_for_south_georgia_&_south_sandwich_islands", "gs"),
    ("flag_for_south_korea", "kr"), ("flag_for_south_sudan", "ss"), ("flag_for_spain", "es"),
    ("flag_for_sri_lanka", "lk"), ("flag_for_st._barthélemy", "bl"),
    ("flag_for_st._helena", "sh"), ("flag_for_st._kitts_&_nevis", "kn"),
    ("flag_for_st._lucia", "lc"), ("flag_for_st._martin", "mf"),
    ("flag_for_st._pierre_&_miquelon", "pm"), ("flag_for_st._vincent_&_grenadines", "vc"),
    ("flag_for_sudan", "sd"), ("flag_for_suriname", "sr"),
    ("flag_for_svalbard_&_jan_mayen", "sj"), ("flag_for_swaziland", "sz"),
    ("flag_for_sweden", "se"), ("flag_for_switzerland", "ch"), ("flag_for_syria", "sy"),
    ("flag_for_são_tomé_&_príncipe", "st"), ("flag_for_taiwan", "tw"),
    ("flag_for_tajikistan", "tj"), ("flag_for_tanzania", "tz"), ("flag_for_thailand", "th"),
    ("flag_for_timor__leste", "tl"), ("flag_for_togo", "tg"), ("flag_for_tokelau", "tk"),
    ("flag_for_tonga", "to"), ("flag_for_trinidad_&_tobago", "tt"),
    ("flag_for_tristan_da_cunha", "ta"), ("flag_for_tunisia", "tn"), ("flag_for_turkey", "tr"),
    ("flag_for_turkmenistan", "tm"), ("flag_for_turks_&_caicos_islands", "tc"),
    ("flag_for_tuvalu", "tv"), ("flag_for_u.s._outlying_islands", "um"),
    ("flag_for_u.s._virgin_islands", "vi"), ("flag_for_uganda", "ug"), ("flag_for_ukraine", "ua"),
    ("flag_for_united_arab_emirates", "ae"), ("flag_for_united_kingdom", "gb"),
    ("flag_for_united_states", "us"), ("flag_for_uruguay", "uy"), ("flag_for_uzbekistan", "uz"),
    ("flag_for_vanuatu", "vu"), ("flag_for_vatican_city", "va"), ("flag_for_venezuela", "ve"),
    ("flag_for_vietnam", "vn"), ("flag_for_wallis_&_futuna", "wf"),
    ("flag_for_western_sahara", "eh"), ("flag_for_yemen", "ye"), ("flag_for_zambia", "zm"),
    ("flag_for_zimbabwe", "zw"), ("flag_for_åland_islands", "ax"), ("france", "fr"),
    ("french_guiana", "gf"), ("french_polynesia", "pf"), ("french_southern_territories", "tf"),
    ("gabon", "ga"), ("gambia", "gm"), ("georgia", "ge"), ("germany", "de"), ("ghana", "gh"),
    ("gibraltar", "gi"), ("greece", "gr"), ("greenland", "gl"), ("grenada", "gd"),
    ("guadeloupe", "gp"), ("guam", "gu"), ("guatemala", "gt"), ("guernsey", "gg"),
    ("guinea", "gn"), ("guinea-bissau", "gw"), ("guyana", "gy"), ("haiti", "ht"),
    ("heard_&_mcdonald_islands", "hm"), ("honduras", "hn"), ("hong_kong_sar_china", "hk"),
    ("hungary", "hu"), ("iceland", "is"), ("india", "in"), ("indonesia", "id"), ("iran", "ir"),
    ("iraq", "iq"), ("ireland", "ie"), ("isle_of_man", "im"), ("israel", "il"), ("italy", "it"),
    ("jamaica", "jm"), ("jersey", "je"), ("jordan", "jo"), ("kazakhstan", "kz"), ("kenya", "ke"),
    ("kiribati", "ki"), ("kosovo", "xk"), ("kuwait", "kw"), ("kyrgyzstan", "kg"), ("laos", "la"),
    ("latvia", "lv"), ("lebanon", "lb"), ("lesotho", "ls"), ("liberia", "lr"), ("libya", "ly"),
    ("liechtenstein", "li"), ("lithuania", "lt"), ("luxembourg", "lu"), ("macau_sar_china", "mo"),
    ("macedonia", "mk"), ("madagascar", "mg"), ("malawi", "mw"), ("malaysia", "my"),
    ("maldives", "mv"), ("mali", "ml"), ("malta", "mt"), ("marshall_islands", "mh"),
    ("martinique", "mq"), ("mauritania", "mr"), ("mauritius", "mu"), ("mayotte", "yt"),
    ("mexico", "mx"), ("micronesia", "fm"), ("moldova", "md"), ("monaco", "mc"),
    ("mongolia", "mn"), ("montenegro", "me"), ("montserrat", "ms"), ("morocco", "ma"),
    ("mozambique", "mz"), ("myanmar_(burma)", "mm"), ("namibia", "na"), ("nauru", "nr"),
    ("nepal", "np"), ("netherlands", "nl"), ("new_caledonia", "nc"), ("new_zealand", "nz"),
    ("nicaragua", "ni"), ("niger", "ne"), ("nigeria", "ng"), ("niue", "nu"),
    ("norfolk_island", "nf"), ("north_korea", "kp"), ("northern_mariana_islands", "mp"),
    ("norway", "no"), ("oman", "om"), ("pakistan", "pk"), ("palau", "pw"),
    ("palestinian_territories", "ps"), ("panama", "pa"), ("papua_new_guinea", "pg"),
    ("paraguay", "py"), ("peru", "pe"), ("philippines", "ph"), ("pitcairn_islands", "pn"),
    ("poland", "pl"), ("portugal", "pt"), ("puerto_rico", "pr"), ("qatar", "qa"),
    ("romania", "ro"), ("russia", "ru"), ("rwanda", "rw"), ("réunion", "re"), ("samoa", "ws"),
    ("san_marino", "sm"), ("saudi_arabia", "sa"), ("scotland", "gbsct"), ("senegal", "sn"),
    ("serbia", "rs"), ("seychelles", "sc"), ("sierra_leone", "sl"), ("singapore", "sg"),
    ("sint_maarten", "sx"), ("slovakia", "sk"), ("slovenia", "si"), ("solomon_islands", "sb"),
    ("somalia", "so"), ("south_africa", "za"), ("south_georgia_&_south_sandwich_islands", "gs"),
    ("south_korea", "kr"), ("south_sudan", "ss"), ("spain", "es"), ("sri_lanka", "lk"),
    ("st._barthélemy", "bl"), ("st._helena", "sh"), ("st._kitts_&_nevis", "kn"),
    ("st._lucia", "lc"), ("st._martin", "mf"), ("st._pierre_&_miquelon", "pm"),
    ("st._vincent_&_grenadines", "vc"), ("sudan", "sd"), ("suriname", "sr"),
    ("svalbard_&_jan_mayen", "sj"), ("swaziland", "sz"), ("sweden", "se"), ("switzerland", "ch"),
    ("syria", "sy"), ("são_tomé_&_príncipe", "st"), ("taiwan", "tw"), ("tajikistan", "tj"),
    ("tanzania", "tz"), ("thailand", "th"), ("timor-leste", "tl"), ("togo", "tg"),
    ("tokelau", "tk"), ("tonga", "to"), ("trinidad_&_tobago", "tt"), ("tristan_da_cunha", "ta"),
    ("tunisia", "tn"), ("turkmenistan", "tm"), ("turks_&_caicos_islands", "tc"), ("tuvalu", "tv"),
    ("u.s._outlying_islands", "um"), ("u.s._virgin_islands", "vi"), ("uganda", "ug"),
    ("ukraine", "ua"), ("united_arab_emirates", "ae"), ("united_kingdom", "gb"),
    ("united_nations", "un"), ("united_states", "us"), ("uruguay", "uy"), ("uzbekistan", "uz"),
    ("vanuatu", "vu"), ("vatican_city", "va"), ("venezuela", "ve"), ("vietnam", "vn"),
    ("wales", "gbwls"), ("wallis_&_futuna", "wf"), ("western_sahara", "eh"), ("yemen", "ye"),
    ("zambia", "zm"), ("zimbabwe", "zw"), ("åland_islands", "ax")]

end Relocation.Picture
