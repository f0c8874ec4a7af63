import Relocation.Picture.AToC
import Relocation.Picture.DToF
import Relocation.Picture.Flags
import Relocation.Picture.GToK
import Relocation.Picture.LToM
import Relocation.Picture.NToR
import Relocation.Picture.SToZ
import Relocation.Picture.Signs
import Relocation.Picture.SkinTone

/-!
# Pictures

Small pictures that are written as characters and have short names. Most are listed with their
names; two kinds follow a rule:

* a flag is written with the letters of its region,
* a picture of people in a skin tone is that picture with the tone after its first character.

`Picture.find?` looks a name up.
-/

namespace Relocation.Picture

/-- The pictures that are listed. -/
def listed : List (String × String) :=
  signs ++ aToC ++ dToF ++ gToK ++ lToM ++ nToR ++ sToZ

/-- A letter with its place in the alphabet moved to another code point. -/
def moved (first : Nat) (letter : Char) : Char :=
  Char.ofNat (first + (letter.toNat - 'a'.toNat))

/-- The flag of a region. The flag of a country is the letters of the country as flag letters; that
of a part of a country is a black flag with the letters as invisible tags. -/
def flag (region : String) : String :=
  if region.length = 2 then .ofList (region.toList.map (moved 0x1f1e6))
  else .ofList ('🏴' :: region.toList.map (moved 0xe0061) ++ [Char.ofNat 0xe007f])

/-- A picture with a skin tone after its first character, in place of a selector there. -/
def withTone (tone : Char) (picture : String) : String :=
  match picture.toList with
  | [] => ""
  | first :: '\ufe0f' :: rest => .ofList (first :: tone :: rest)
  | first :: rest => .ofList (first :: tone :: rest)

/-- What comes before a given end of a name. -/
def before? (ending name : List Char) : Option String :=
  if ending.isSuffixOf name then some (.ofList (name.take (name.length - ending.length))) else none

/-- The picture in a skin tone that a name stands for. The name is that of the picture with the tone
after it. -/
def inTone? (name : String) : Option String :=
  skinTones.findSome? fun (label, tone) => do
    let base ← before? s!"_{label}_skin_tone".toList name.toList
    if toned.contains base then (listed.lookup base).map (withTone tone) else none

/-- The picture that a name stands for. -/
def find? (name : String) : Option String :=
  listed.lookup name <|> (regions.lookup name).map flag <|> inTone? name

end Relocation.Picture
