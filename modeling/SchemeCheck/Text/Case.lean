import SchemeCheck.Text.Basic
import SchemeCheck.Text.CaseTable
set_option autoImplicit false

/-!
Full case mapping. A capital sigma becomes a final sigma where the nearest character before it that
is not ignorable has case and the nearest after it has none.
-/

namespace SchemeCheck
namespace Case

/-- The ranges of the tables start at U+0080, so ASCII letters are mapped by rule. -/
def lowerChar (c : Char) : Char :=
  if c.toNat < 128 then c.toLower else Char.ofNat (shifted lowerShifts c.toNat)

def upperChar (c : Char) : Text :=
  if c.toNat < 128 then [c.toUpper]
  else
    match upperExpansions.lookup c.toNat with
    | some ns => ns.map Char.ofNat
    | none => [Char.ofNat (shifted upperShifts c.toNat)]

def isCased (c : Char) : Bool :=
  if c.toNat < 128 then c.isAlpha else inRanges casedRanges c.toNat

def isIgnorable (c : Char) : Bool :=
  if c.toNat < 128 then [39, 46, 58, 94, 96].contains c.toNat else inRanges ignorableRanges c.toNat

def meetsCased (t : Text) : Bool :=
  match t.dropWhile isIgnorable with
  | [] => false
  | c :: _ => isCased c

/-- Lower case of a text that follows the characters of `seen`, the last of them first. -/
def lowerFrom (seen : Text) : Text → Text
  | [] => []
  | c :: t =>
    if c = 'Σ' then
      (if meetsCased seen && !meetsCased t then 'ς' else 'σ') :: lowerFrom (c :: seen) t
    else if c = 'İ' then 'i' :: '\u0307' :: lowerFrom (c :: seen) t
    else lowerChar c :: lowerFrom (c :: seen) t

end Case

namespace Text

def lower (t : Text) : Text := Case.lowerFrom [] t

def upper (t : Text) : Text := t.flatMap Case.upperChar

end Text
end SchemeCheck
