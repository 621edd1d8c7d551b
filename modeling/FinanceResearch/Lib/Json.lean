import Mathlib.Data.List.Sort
import FinanceResearch.Lib.Characters

/-!
# JSON values and `json.dumps`

The value tree of Python's `json` module and its canonical text: keys sorted,
no spaces, every character outside printable ASCII escaped
(`sort_keys=True, separators=(",", ":"), ensure_ascii=True`). A float is kept
as the text Python prints for it. `pythonText` is `str` of a value whose arrays
are tuples and whose objects are `FrozenMap`s.
-/

inductive Json where
  | null
  | bool (value : Bool)
  | int (value : Int)
  | float (repr : String)
  | str (value : String)
  | arr (items : List Json)
  | obj (fields : List (String × Json))

namespace Json

mutual

/-- Structural equality of values. -/
def decEq : (a b : Json) → Decidable (a = b)
  | null, null => isTrue rfl
  | bool a, bool b => decidable_of_iff (a = b) (by simp)
  | int a, int b => decidable_of_iff (a = b) (by simp)
  | float a, float b => decidable_of_iff (a = b) (by simp)
  | str a, str b => decidable_of_iff (a = b) (by simp)
  | arr a, arr b => have := decEqItems a b; decidable_of_iff (a = b) (by simp)
  | obj a, obj b => have := decEqFields a b; decidable_of_iff (a = b) (by simp)
  | null, bool _ | null, int _ | null, float _ | null, str _ | null, arr _ | null, obj _
  | bool _, null | bool _, int _ | bool _, float _ | bool _, str _ | bool _, arr _ | bool _, obj _
  | int _, null | int _, bool _ | int _, float _ | int _, str _ | int _, arr _ | int _, obj _
  | float _, null | float _, bool _ | float _, int _ | float _, str _ | float _, arr _
  | float _, obj _
  | str _, null | str _, bool _ | str _, int _ | str _, float _ | str _, arr _ | str _, obj _
  | arr _, null | arr _, bool _ | arr _, int _ | arr _, float _ | arr _, str _ | arr _, obj _
  | obj _, null | obj _, bool _ | obj _, int _ | obj _, float _ | obj _, str _ | obj _, arr _ =>
    isFalse (by simp)

def decEqItems : (a b : List Json) → Decidable (a = b)
  | [], [] => isTrue rfl
  | [], _ :: _ | _ :: _, [] => isFalse (by simp)
  | x :: xs, y :: ys =>
    have := decEq x y
    have := decEqItems xs ys
    decidable_of_iff (x = y ∧ xs = ys) (by simp)

def decEqFields : (a b : List (String × Json)) → Decidable (a = b)
  | [], [] => isTrue rfl
  | [], _ :: _ | _ :: _, [] => isFalse (by simp)
  | (k, x) :: xs, (l, y) :: ys =>
    have := decEq x y
    have := decEqFields xs ys
    decidable_of_iff (k = l ∧ x = y ∧ xs = ys) (by simp [and_assoc])

end

instance : DecidableEq Json := decEq

/-- `digits` lower-case hexadecimal digits of `n`. -/
def hex (digits n : Nat) : List Char :=
  (List.range digits).map fun i => Nat.digitChar (n / 16 ^ (digits - 1 - i) % 16)

/-- `\uXXXX`, as a surrogate pair above the basic plane. -/
def escapeUnicode (n : Nat) : List Char :=
  if n < 0x10000 then '\\' :: 'u' :: hex 4 n
  else
    let v := n - 0x10000
    '\\' :: 'u' :: hex 4 (0xd800 + v / 0x400) ++ '\\' :: 'u' :: hex 4 (0xdc00 + v % 0x400)

/-- One character of a JSON string, `ensure_ascii=True`. -/
def escapeChar (c : Char) : List Char :=
  match c with
  | '"' => ['\\', '"']
  | '\\' => ['\\', '\\']
  | '\n' => ['\\', 'n']
  | '\r' => ['\\', 'r']
  | '\t' => ['\\', 't']
  | c =>
    if c.toNat = 8 then ['\\', 'b']
    else if c.toNat = 12 then ['\\', 'f']
    else if 32 ≤ c.toNat ∧ c.toNat ≤ 126 then [c]
    else escapeUnicode c.toNat

/-- A quoted JSON string. -/
def quote (s : String) : List Char := '"' :: s.toList.flatMap escapeChar ++ ['"']

mutual

/-- The characters `json.dumps` writes. -/
def chars : Json → List Char
  | null => ['n', 'u', 'l', 'l']
  | bool true => ['t', 'r', 'u', 'e']
  | bool false => ['f', 'a', 'l', 's', 'e']
  | int i => (toString i).toList
  | float r => r.toList
  | str s => quote s
  | arr items => '[' :: List.intercalate [','] (itemChars items) ++ [']']
  | obj fields =>
    '\x7b' :: List.intercalate [',']
      (((fieldChars fields).insertionSort (fun f g => f.1 ≤ g.1)).map fun f =>
        quote f.1 ++ ':' :: f.2) ++ ['\x7d']

def itemChars : List Json → List (List Char)
  | [] => []
  | item :: rest => chars item :: itemChars rest

def fieldChars : List (String × Json) → List (String × List Char)
  | [] => []
  | (key, value) :: rest => (key, chars value) :: fieldChars rest

end

/-- `json.dumps(value, sort_keys=True, separators=(",", ":"), ensure_ascii=True)`. -/
def dumps (value : Json) : String := String.ofList (chars value)

example : dumps (obj [("b", arr [int (-3), null]), ("a", str "é\n")]) =
    "\x7b\"a\":\"\\u00e9\\n\",\"b\":[-3,null]\x7d" := by decide

/-! ## `str` and `repr` -/

/-- One character of `repr(text)` between `quote`s. -/
def reprChar (u : CharacterDatabase) (quote c : Char) : List Char :=
  if c = quote ∨ c = '\\' then ['\\', c]
  else if c = '\n' then ['\\', 'n']
  else if c = '\r' then ['\\', 'r']
  else if c = '\t' then ['\\', 't']
  else if u.isPrintable c then [c]
  else if c.toNat < 0x100 then '\\' :: 'x' :: hex 2 c.toNat
  else if c.toNat < 0x10000 then '\\' :: 'u' :: hex 4 c.toNat
  else '\\' :: 'U' :: hex 8 c.toNat

/-- `repr(text)`: double quotes when the text has only single ones. -/
def reprText (u : CharacterDatabase) (text : String) : List Char :=
  let single := Char.ofNat 39
  let quote := if single ∈ text.toList ∧ '"' ∉ text.toList then '"' else single
  quote :: text.toList.flatMap (reprChar u quote) ++ [quote]

/-- A tuple of printed items. -/
def reprTuple : List (List Char) → List Char
  | [] => ['(', ')']
  | [item] => '(' :: item ++ [',', ')']
  | items => '(' :: List.intercalate [',', ' '] items ++ [')']

mutual

/-- `repr(value)`. -/
def repr (u : CharacterDatabase) : Json → List Char
  | null => "None".toList
  | bool true => "True".toList
  | bool false => "False".toList
  | int i => (toString i).toList
  | float r => r.toList
  | str s => reprText u s
  | arr items => reprTuple (reprItems u items)
  | obj fields => "FrozenMap(_items=".toList ++ reprTuple (reprFields u fields) ++ [')']

def reprItems (u : CharacterDatabase) : List Json → List (List Char)
  | [] => []
  | item :: rest => repr u item :: reprItems u rest

def reprFields (u : CharacterDatabase) : List (String × Json) → List (List Char)
  | [] => []
  | (key, value) :: rest => reprTuple [reprText u key, repr u value] :: reprFields u rest

end

/-- `str(value)`. -/
def pythonText (u : CharacterDatabase) : Json → String
  | str s => s
  | value => String.ofList (repr u value)

example : pythonText .ascii (arr [str "it's", obj [("a", null)]]) =
    "(\"it's\", FrozenMap(_items=(('a', None),)))" := by decide

end Json
