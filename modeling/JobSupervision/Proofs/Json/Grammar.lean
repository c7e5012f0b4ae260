/-
# How values are written

The texts of a value whose numbers are integers (`Json.Spells`).  One value has many: there may be
blanks around it and its parts, a character of a string may stand for itself or be escaped, by a
letter or by one or two 16-bit units in hexadecimal digits of either case, and the members of an
object may have any order, also with one key more than once.  An integer has one numeral; `-0` is
none of them, it writes a floating point number.
-/
import JobSupervision.Json.Reader
import Mathlib.Tactic.Lemma

namespace JobSupervision.Json

/-! ### Strings -/

/-- Whether a character is a hexadecimal digit of either case for a number. -/
def IsHex (c : Char) (v : Nat) : Prop := v < 16 ∧ (c = v.digitChar ∨ c = v.digitChar.toUpper)

/-- Whether a text is the four hexadecimal digits of a 16-bit unit. -/
def IsQuad (s : List Char) (unit : Nat) : Prop :=
  ∃ a b c d v₁ v₂ v₃ v₄, s = [a, b, c, d] ∧ IsHex a v₁ ∧ IsHex b v₂ ∧ IsHex c v₃ ∧ IsHex d v₄ ∧
    unit = ((v₁ * 16 + v₂) * 16 + v₃) * 16 + v₄

/-- The letters that escape a character. -/
def escapeLetters : List (Char × Char) :=
  [('"', '"'), ('\\', '\\'), ('/', '/'), ('b', '\x08'), ('f', '\x0c'), ('n', '\n'), ('r', '\r'),
    ('t', '\t')]

/-- A text of a character in a string. -/
inductive SpellsChar : List Char → Char → Prop
  /-- The character as it is. -/
  | plain {c : Char} (hvisible : 0x20 ≤ c.toNat) (hquote : c ≠ '"') (hback : c ≠ '\\') :
    SpellsChar [c] c
  /-- An escape by a letter. -/
  | letter {e c : Char} (h : (e, c) ∈ escapeLetters) : SpellsChar ['\\', e] c
  /-- An escape by the unit of the character. -/
  | unit {s : List Char} {c : Char} (h : IsQuad s c.toNat) : SpellsChar ('\\' :: 'u' :: s) c
  /-- An escape by the surrogate pair of the character. -/
  | pair {s t : List Char} {c : Char} {high low : Nat} (hs : IsQuad s high) (ht : IsQuad t low)
    (hhigh : 0xD800 ≤ high ∧ high ≤ 0xDBFF) (hlow : 0xDC00 ≤ low ∧ low ≤ 0xDFFF)
    (hc : c.toNat = 0x10000 + (high - 0xD800) * 0x400 + (low - 0xDC00)) :
    SpellsChar ('\\' :: 'u' :: (s ++ '\\' :: 'u' :: t)) c

/-- A text of some characters in a string. -/
inductive SpellsChars : List Char → List Char → Prop
  /-- No characters. -/
  | nil : SpellsChars [] []
  /-- A character and others. -/
  | cons {s t : List Char} {c : Char} {cs : List Char} (h : SpellsChar s c)
    (ht : SpellsChars t cs) : SpellsChars (s ++ t) (c :: cs)

/-! ### Values -/

mutual

/-- A text of a value. -/
inductive Spells : List Char → Json → Prop
  /-- The word `null`. -/
  | null : Spells ['n', 'u', 'l', 'l'] .null
  /-- The word `true`. -/
  | yes : Spells ['t', 'r', 'u', 'e'] (.bool true)
  /-- The word `false`. -/
  | no : Spells ['f', 'a', 'l', 's', 'e'] (.bool false)
  /-- The digits of a number of 64 bits. -/
  | nat {n : Nat} (h : n ≤ 0xffffffffffffffff) : Spells (Nat.toDigits 10 n) (.nat n)
  /-- A minus sign and the digits of a number. -/
  | negative {n : Nat} (hpos : 0 < n) (h : n ≤ 0x8000000000000000) :
    Spells ('-' :: Nat.toDigits 10 n) (.int (-n))
  /-- The characters of a string between quotes. -/
  | str {s : List Char} {text : String} (h : SpellsChars s text.toList) :
    Spells ('"' :: (s ++ ['"'])) (.str text)
  /-- An empty list. -/
  | emptyArr {blanks : List Char} (h : ∀ c ∈ blanks, isSpace c = true) :
    Spells ('[' :: (blanks ++ [']'])) (.arr [])
  /-- A list of items. -/
  | arr {s : List Char} {items : List Json} (h : SpellsItems s items) :
    Spells ('[' :: (s ++ [']'])) (.arr items)
  /-- An empty object. -/
  | emptyObj {blanks : List Char} (h : ∀ c ∈ blanks, isSpace c = true) :
    Spells ('\x7b' :: (blanks ++ ['\x7d'])) (.obj [])
  /-- An object of members. -/
  | obj {s : List Char} {members : List (String × Json)} (h : SpellsMembers s members) :
    Spells ('\x7b' :: (s ++ ['\x7d'])) (.obj members)
  /-- A blank in front. -/
  | before {c : Char} {s : List Char} {j : Json} (hc : isSpace c = true) (h : Spells s j) :
    Spells (c :: s) j
  /-- A blank behind. -/
  | after {c : Char} {s : List Char} {j : Json} (hc : isSpace c = true) (h : Spells s j) :
    Spells (s ++ [c]) j

/-- A text of items. -/
inductive SpellsItems : List Char → List Json → Prop
  /-- One item. -/
  | one {s : List Char} {j : Json} (h : Spells s j) : SpellsItems s [j]
  /-- An item and more of them. -/
  | more {s t : List Char} {j : Json} {items : List Json} (h : Spells s j)
    (ht : SpellsItems t items) : SpellsItems (s ++ ',' :: t) (j :: items)

/-- A text of members. -/
inductive SpellsMembers : List Char → List (String × Json) → Prop
  /-- One member. -/
  | one {k s : List Char} {key : String} {j : Json} (hk : Spells k (.str key)) (h : Spells s j) :
    SpellsMembers (k ++ ':' :: s) [(key, j)]
  /-- A member and more of them. -/
  | more {k s t : List Char} {key : String} {j : Json} {members : List (String × Json)}
    (hk : Spells k (.str key)) (h : Spells s j) (ht : SpellsMembers t members) :
    SpellsMembers (k ++ ':' :: (s ++ ',' :: t)) ((key, j) :: members)

end

/-- A string is written between quotes, with or without blanks around it. -/
lemma Spells.exists_quoted : ∀ {s : List Char} {j : Json} {text : String}, Spells s j →
    j = .str text → ∃ before cs after, s = before ++ '"' :: (cs ++ '"' :: after) ∧
      (∀ c ∈ before, isSpace c = true) ∧ (∀ c ∈ after, isSpace c = true) ∧
      SpellsChars cs text.toList
  | _, _, _, .str h, rfl => ⟨[], _, [], rfl, by simp, by simp, h⟩
  | _, _, _, .before hc h, htext => by
    obtain ⟨before, cs, after, rfl, hbefore, hafter, hcs⟩ := Spells.exists_quoted h htext
    exact ⟨_ :: before, cs, after, rfl, List.forall_mem_cons.2 ⟨hc, hbefore⟩, hafter, hcs⟩
  | _, _, _, .after (c := c) hc h, htext => by
    obtain ⟨before, cs, after, rfl, hbefore, hafter, hcs⟩ := Spells.exists_quoted h htext
    refine ⟨before, cs, after ++ [c], by simp, hbefore, fun d hd => ?_, hcs⟩
    rcases List.mem_append.1 hd with hd | hd
    · exact hafter d hd
    · rwa [List.mem_singleton.1 hd]

end JobSupervision.Json
