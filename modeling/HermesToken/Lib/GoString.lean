import Mathlib.Data.List.DropRight

/-!
# String functions of the Go standard library

`strings.TrimSpace`, `strings.TrimPrefix`, `strings.ToLower`, `strings.ToUpper`,
`strings.EqualFold`, a split at one separator and the reading of a hexadecimal
number, over the characters of a `String`. Letter case is that of the ASCII
letters. All of them are structural, so a closed string evaluates.
-/

namespace HermesToken.Lib

/-- `unicode.IsSpace`, by code point. -/
def isSpace (c : Char) : Bool :=
  c.toNat ∈ [0x09, 0x0a, 0x0b, 0x0c, 0x0d, 0x20, 0x85, 0xa0, 0x1680, 0x2028,
    0x2029, 0x202f, 0x205f, 0x3000]
  || (0x2000 ≤ c.toNat && c.toNat ≤ 0x200a)

variable (s : String)

/-- `strings.TrimSpace`. -/
def trimSpace : String :=
  String.ofList
    ((s.toList.dropWhile isSpace).reverse.dropWhile isSpace).reverse

/-- `strings.ToLower`. -/
def toLower : String :=
  String.ofList (s.toList.map Char.toLower)

/-- `strings.ToUpper`. -/
def toUpper : String :=
  String.ofList (s.toList.map Char.toUpper)

/-- `strings.EqualFold`. -/
def equalFold (a b : String) : Bool :=
  toLower a == toLower b

/-- `strings.TrimPrefix`. -/
def trimPrefix (lead : String) : String :=
  if lead.toList.isPrefixOf s.toList then String.ofList (s.toList.drop lead.toList.length) else s

def hexDigit (c : Char) : Option Nat :=
  if '0' ≤ c ∧ c ≤ '9' then some (c.toNat - 48)
  else if 'a' ≤ c ∧ c ≤ 'f' then some (c.toNat - 87)
  else if 'A' ≤ c ∧ c ≤ 'F' then some (c.toNat - 55)
  else none

def hexDigits : Nat → List Char → Option Nat
  | n, [] => some n
  | n, c :: cs => match hexDigit c with
    | some d => hexDigits (16 * n + d) cs
    | none => none

/-- A number in base 16: a sign, if there is one, and at least one digit. -/
def parseHex : Option Int :=
  match s.toList with
  | [] => none
  | '-' :: c :: cs => (hexDigits 0 (c :: cs)).map fun n => -n
  | '+' :: c :: cs => (hexDigits 0 (c :: cs)).map fun n => n
  | cs => (hexDigits 0 cs).map fun n => n

/-- The pieces of `cs` between the separators `sep`; `cur` collects the
current piece in reverse. -/
def splitChars (sep : Char) : List Char → List Char → List (List Char)
  | cur, [] => [cur.reverse]
  | cur, c :: cs =>
      if c = sep then cur.reverse :: splitChars sep [] cs
      else splitChars sep (c :: cur) cs

/-- `strings.Split` at a one-character separator. -/
def split (sep : Char) : List String :=
  (splitChars sep [] s.toList).map String.ofList

example : trimSpace " \tgpt-4 " = "gpt-4" := by decide
example : split "a, b" ',' = ["a", " b"] := by decide
example : parseHex "-1F" = some (-31) := by decide

/-! ## Trimming and lower case together

A name is normalised by trimming it and lowering its letters; doing so twice
changes nothing. -/

theorem toNat_toLower (c : Char) : c.toLower.toNat =
    if 65 ≤ c.toNat ∧ c.toNat ≤ 90 then c.toNat + 32 else c.toNat := by
  by_cases h : c.val ≥ 'A'.val ∧ c.val ≤ 'Z'.val
  · have hn : 65 ≤ c.toNat ∧ c.toNat ≤ 90 := h
    have hle : c.val.toNat ≤ 90 := hn.2
    have h32 : ('a'.val - 'A'.val).toNat = 32 := by decide
    rw [if_pos hn]
    delta Char.toLower
    simp only [dif_pos h, Char.toNat]
    rw [UInt32.toNat_add]
    omega
  · have hn : ¬ (65 ≤ c.toNat ∧ c.toNat ≤ 90) := h
    rw [if_neg hn]
    delta Char.toLower
    simp only [dif_neg h]

@[simp] theorem toList_toLower : (toLower s).toList = s.toList.map Char.toLower :=
  String.toList_ofList

theorem toLower_char_idem (c : Char) : c.toLower.toLower = c.toLower := by
  apply Char.ext
  apply UInt32.toNat_inj.mp
  show c.toLower.toLower.toNat = c.toLower.toNat
  rw [toNat_toLower c.toLower, if_neg]
  rw [toNat_toLower]
  split <;> omega

theorem isSpace_eq_false (h₁ : 65 ≤ c.toNat) (h₂ : c.toNat ≤ 122) : isSpace c = false := by
  simp [isSpace]
  omega

theorem isSpace_toLower (c : Char) : isSpace c.toLower = isSpace c := by
  by_cases h : 65 ≤ c.toNat ∧ c.toNat ≤ 90
  · have hl : c.toLower.toNat = c.toNat + 32 := by rw [toNat_toLower, if_pos h]
    rw [isSpace_eq_false (by omega) (by omega), isSpace_eq_false h.1 (by omega)]
  · simp only [isSpace, toNat_toLower, if_neg h]

/-- What trimming leaves of a list of characters. -/
def trimmed (l : List Char) : List Char := (l.dropWhile isSpace).rdropWhile isSpace

theorem trimSpace_eq : trimSpace s = String.ofList (trimmed s.toList) := rfl

theorem trimmed_idem (l : List Char) : trimmed (trimmed l) = trimmed l := by
  -- the first character that is kept is no space, so nothing goes in front
  have hfront : (trimmed l).dropWhile isSpace = trimmed l := by
    rw [List.dropWhile_eq_self_iff]
    intro hl
    have hpre : trimmed l <+: l.dropWhile isSpace := List.rdropWhile_prefix _ _
    have hlen : 0 < (l.dropWhile isSpace).length := lt_of_lt_of_le hl hpre.length_le
    rw [hpre.getElem]
    exact List.dropWhile_eq_self_iff.mp (List.dropWhile_idempotent isSpace l) hlen
  show ((trimmed l).dropWhile isSpace).rdropWhile isSpace = trimmed l
  rw [hfront]
  exact List.rdropWhile_idempotent _ _

theorem trimmed_map_toLower (l : List Char) :
    trimmed (l.map Char.toLower) = (trimmed l).map Char.toLower := by
  have hp : isSpace ∘ Char.toLower = isSpace := funext isSpace_toLower
  simp only [trimmed, List.dropWhile_map, hp, List.rdropWhile, ← List.map_reverse]

theorem toLower_trimSpace_idem :
    toLower (trimSpace (toLower (trimSpace s))) = toLower (trimSpace s) := by
  simp only [trimSpace_eq, toLower, String.toList_ofList, trimmed_map_toLower, trimmed_idem,
    List.map_map]
  congr 1
  exact List.map_congr_left fun c _ => toLower_char_idem c

end HermesToken.Lib
