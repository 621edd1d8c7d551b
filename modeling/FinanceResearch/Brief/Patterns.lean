import FinanceResearch.Brief.Draft

/-!
# Patterns of the validator

The regular expressions of `domain/validation.py`, and the numbers it reads from
texts and from evidence values with them.
-/

namespace FinanceResearch

namespace Patterns

open Regex

variable (u : CharacterDatabase)

/-- `\b(?:…)\b`. -/
def phrase (alternatives : List Regex) : Regex :=
  all [wordBoundary u, any alternatives, wordBoundary u]

/-- Two words with white space between them. -/
def pair (first second : String) : Regex := all [letters u first, spaces u, letters u second]

/-- `_IMPERATIVE`. -/
def imperative : Regex :=
  phrase u [letters u "buy", letters u "sell", letters u "short", letters u "execute",
    all [letters u "place", spaces u, opt (all [letters u "a", opt (letters u "n"), spaces u]),
      letters u "order"],
    pair u "enter" "now", pair u "exit" "now", pair u "guaranteed" "upside", pair u "safe" "trade",
    letters u "approved", letters u "executed"]

/-- `[A-Za-z0-9_]`. -/
def isAsciiWord (c : Char) : Bool := c.isAlphanum || c == '_'

/-- `_NUMERIC_TEXT`. -/
def numericText : Regex :=
  all [notBehind isAsciiWord, opt (char '$'), opt (char '-'),
    any [all [plus (digit u), opt (all [char '.', star (digit u)])],
      all [char '.', plus (digit u)]],
    opt (all [set fun c => c == 'e' || c == 'E', opt (set fun c => c == '+' || c == '-'),
      plus (digit u)]),
    opt (char '%'), notAhead isAsciiWord]

/-- `_URL_TEXT`. -/
def urlText : Regex :=
  all [letters u "http", opt (letters u "s"), letters u "://", plus (set fun c => !u.isSpace c)]

/-- `_FULL_MARKET_CLAIM`. -/
def fullMarketClaim : Regex :=
  phrase u [all [letters u "full", set fun c => c == '-' || c == ' ', letters u "market"],
    all [letters u "consolidated", spaces u,
      any [letters u "market", letters u "volume", letters u "activity"]],
    pair u "all" "exchanges", pair u "entire" "market"]

/-- `_ACTIONABLE`. -/
def actionable : Regex :=
  phrase u [letters u "actionable",
    all [letters u "ready", spaces u, letters u "to", spaces u, letters u "trade"],
    all [letters u "eligible", spaces u, letters u "to", spaces u, letters u "trade"]]

example : (imperative .ascii).search "Never Place an ORDER now." = true := by decide
example : (imperative .ascii).search "buyer" = false := by decide
example : (numericText .ascii).findAll "up 1.5%, $-3e2 or .5x and 7." = ["1.5%", "$-3e2", "7."] := by
  decide

/-! ## Numbers -/

/-- `Decimal(token.replace("$", "").removesuffix("%"))`; `none` is `InvalidOperation`. -/
def tokenNumber (token : String) : Option Decimal :=
  let plain := token.toList.filter (· ≠ '$')
  Decimal.parse u (String.ofList (if plain.getLast? = some '%' then plain.dropLast else plain))

mutual

/-- `_decimal_values`. -/
def decimalValues : Json → List Decimal
  | .null | .bool _ => []
  | .int i => [Decimal.ofInt i]
  | .float text => (Decimal.parse u text).toList
  | .str text => ((numericText u).findAll text).filterMap (tokenNumber u)
  | .arr items => itemDecimals items
  | .obj fields => fieldDecimals fields

def itemDecimals : List Json → List Decimal
  | [] => []
  | item :: rest => decimalValues item ++ itemDecimals rest

def fieldDecimals : List (String × Json) → List Decimal
  | [] => []
  | (_, value) :: rest => decimalValues value ++ fieldDecimals rest

end

end Patterns

end FinanceResearch
