/-!
# Pictures: names that start with a digit or a sign

Short names of pictures and what they stand for.
-/

namespace Relocation.Picture

/-- The pictures with names that start with a digit or a sign. -/
def signs : List (String × String) :=
  [("+1", "👍"), ("-1", "👎"), ("100", "💯"), ("1234", "🔢"), ("1st_place_medal", "🥇"),
    ("2nd_place_medal", "🥈"), ("3rd_place_medal", "🥉"), ("8ball", "🎱"), ("__1", "👎")]

end Relocation.Picture
