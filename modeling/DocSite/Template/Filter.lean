/-
# DocSite.Template.Filter -- filters

A filter makes a value of another one and is found by its name. Most filters depend on nothing but
the value and the arguments; a few apply a test or another filter to every item.
-/
import DocSite.Template.Test
import DocSite.Text.Punctuation

set_option autoImplicit false

namespace DocSite.Template

open Text

namespace Value

/-- The part of a value that a path with dots leads to. -/
def path (value : Value) (path : Text) : Result Value :=
  (splitOn '.' path).foldlM
    (fun value piece =>
      if value.isUndefined then .error .undefinedValue
      else
        let key := if !piece.isEmpty && piece.all Char.isDigit then Value.int (readDecimal piece)
          else plain piece
        .ok ((value.part? key).getD .undefined))
    value

/-! ## Texts -/

/-- A text with each word beginning with a capital letter. -/
def titleCase : (first : Bool) → Text → Text
  | _, [] => []
  | first, c :: rest =>
    if isAsciiPunctuation c || isBlank c then c :: titleCase true rest
    else (if first then upperChar c else lowerChar c) ++ titleCase false rest

/-- A text with a capital letter at its beginning only. -/
def capitalized : Text → Text
  | [] => []
  | c :: rest => upperChar c ++ toLower rest

/-- A text with a phrase replaced; an empty phrase is found around every character. -/
def replaced (phrase replacement text : Text) : Text :=
  if phrase.isEmpty then replacement ++ text.flatMap fun c => c :: replacement
  else Text.replace phrase replacement text

/-- The texts between occurrences of a phrase, at most `limit` occurrences of it; `fuel` bounds
their number. -/
def splitPhrase (phrase : Text) : (fuel limit : Nat) → Text → List Text
  | 0, _, cs => [cs]
  | _, 0, cs => [cs]
  | fuel + 1, limit + 1, cs =>
    match splitFirst? phrase cs with
    | some (before, after) => before :: splitPhrase phrase fuel limit after
    | Option.none => [cs]

/-- The words of a text, after at most `limit` of which the rest stands as it is. -/
def splitWords : (fuel limit : Nat) → Text → List Text
  | 0, _, _ => []
  | fuel + 1, limit, cs =>
    match trimStart cs with
    | [] => []
    | c :: rest =>
      if limit = 0 then [c :: rest]
      else
        let word := (c :: rest).takeWhile fun c => !isBlank c
        word :: splitWords fuel (limit - 1) ((c :: rest).drop word.length)

/-- A text without the line break at its end. -/
def withoutBreak (text : Text) : Text :=
  match text.reverse with
  | '\n' :: '\r' :: rest => rest.reverse
  | '\n' :: rest => rest.reverse
  | '\r' :: rest => rest.reverse
  | _ => text

/-- A text with its lines moved to the right. -/
def indented (width : Nat) (first blanks : Bool) (text : Text) : Text :=
  let margin : Text := List.replicate width ' '
  let move (line : Text) : Text :=
    if line.isEmpty then (if blanks then margin else []) else margin ++ line
  match splitOn '\n' (withoutBreak text) with
  | [] => []
  | line :: lines => withoutBreak (join ['\n'] ((if first then move line else line) :: lines.map move ++ [[]]))

/-- Texts of values with a separator before each that something stands in front of. -/
def joined (separator : Text) (items : List Value) : Text :=
  items.foldl
    (fun text item => (if text.isEmpty then text else text ++ separator) ++ item.display) []

/-! ## Lists -/

/-- How two values compare, perhaps with no regard to the case of ASCII letters. -/
def compareFor (caseMatters : Bool) (a b : Value) : Ordering :=
  match a, b with
  | .text s _, .text t _ =>
    if caseMatters then Text.compare s t
    else Text.compare (s.map Char.toLower) (t.map Char.toLower)
  | a, b => compare a b

/-- A list sorted by what a function makes of its items. -/
def sortedBy {α : Type} (caseMatters : Bool) (key : α → Value) (items : List α) : List α :=
  sortBy (fun a b => compareFor caseMatters (key a) (key b) == .lt) items

/-- The first of the least values. -/
def least : List Value → Value
  | [] => .undefined
  | first :: rest => rest.foldl (fun best item => if compare item best == .lt then item else best) first

/-- The last of the greatest values. -/
def greatest : List Value → Value
  | [] => .undefined
  | first :: rest => rest.foldl (fun best item => if compare item best == .lt then best else item) first

/-- What the part of an item is, or another value if there is none. -/
def pathOr (fallback : Value) (way : Text) (item : Value) : Value :=
  match item.path way with
  | .ok .undefined => fallback
  | .ok found => found
  | .error _ => fallback

/-- What items are sorted by: themselves, or the parts that a path leads to. -/
def sortKey (way : Option Text) (item : Value) : Value :=
  match way with
  | some way => pathOr .undefined way item
  | Option.none => item

/-- What values are told apart by: texts perhaps with no regard to case. -/
def distinction (caseMatters : Bool) : Value → Value
  | .text s safe => .text (if caseMatters then s else toLower s) safe
  | value => value

/-- The items that differ from all earlier ones. -/
def distinct (key : Value → Value) (items : List Value) : List Value :=
  (items.foldl
    (fun (found : List Value × List Value) item =>
      let k := key item
      if found.2.any fun other => compare other k == .eq then found
      else (item :: found.1, k :: found.2))
    ([], [])).1.reverse

/-- Neighbours with equal keys put together, with the key of the last of them. -/
def grouped (caseMatters : Bool) (key : Value → Value) : List Value → List (Value × List Value)
  | [] => []
  | item :: rest =>
    match grouped caseMatters key rest with
    | (k, items) :: groups =>
      if compareFor caseMatters (key item) k == .eq then (k, item :: items) :: groups
      else (key item, [item]) :: (k, items) :: groups
    | [] => [(key item, [item])]

/-- Lists of `n` items each; `fuel` bounds their number. -/
def batches (n : Nat) : (fuel : Nat) → List Value → List (List Value)
  | 0, _ => []
  | fuel + 1, items =>
    if items.isEmpty then [] else items.take n :: batches n fuel (items.drop n)

/-- A list cut into `n` lists of nearly the same length. -/
def columns (n : Nat) (filler : Option Value) (items : List Value) : List (List Value) :=
  let size := items.length / n
  let longer := items.length % n
  (List.range n).map fun i =>
    let start := i * size + min i longer
    let column := (items.drop start).take (if i < longer then size + 1 else size)
    if longer ≤ i then column ++ filler.toList else column

/-- Lists of the items that have the same place, as far as all lists go; `fuel` bounds their
number. -/
def zipped : (fuel : Nat) → List (List Value) → List Value
  | 0, _ => []
  | fuel + 1, lists =>
    if lists.isEmpty || lists.any List.isEmpty then []
    else .list (lists.filterMap List.head?) :: zipped fuel (lists.map (List.drop 1))

/-- The sum of numbers. Missing values are passed over. -/
def total (items : List Value) : Result Value :=
  items.foldlM
    (fun total item =>
      match item.kind with
      | .undefined => .ok total
      | .number => add total item
      | _ => .error .invalidOperation)
    (.int 0)

/-! ## Numbers -/

/-- The number that a text stands for. -/
def readNumber? (text : Text) : Option Binary64 :=
  let negative := text.head? == some '-'
  let name := (if negative || text.head? == some '+' then text.drop 1 else text).map Char.toLower
  if name = "inf".toList || name = "infinity".toList then some (.infinite negative)
  else if name = "nan".toList then some .nan
  else Binary64.ofText? text

/-- The nearest whole number of at most 128 bits. -/
def bounded (n : Int) : Value := .int (max (-(twoTo 127 : Int)) (min (twoTo 127 - 1) n))

/-- A number without its fraction. -/
def withoutFraction : Binary64 → Value
  | .infinite negative => bounded (if negative then -(twoTo 127 : Int) else twoTo 127)
  | x => bounded (x.whole?.getD 0)

/-- The whole number that a value stands for, without its fraction. -/
def toWhole (value : Value) : Result Value :=
  match value with
  | .undefined => .ok (.int 0)
  | .none => .ok (.int 0)
  | .bool b => .ok (.int (if b then 1 else 0))
  | .int n => .ok (.int n)
  | .float x => .ok (withoutFraction x)
  | .text s _ =>
    let digits := if s.head?.any fun c => c == '-' || c == '+' then s.drop 1 else s
    if !digits.isEmpty && digits.all Char.isDigit then
      .ok (bounded (if s.head? = some '-' then -(readDecimal digits : Int) else readDecimal digits))
    else match readNumber? s with
      | some x => .ok (withoutFraction x)
      | Option.none => .error .invalidOperation
  | _ => .error .invalidOperation

/-- The number that a value stands for. -/
def toFloat (value : Value) : Result Value :=
  match value with
  | .undefined => .ok (.float (.zero false))
  | .none => .ok (.float (.zero false))
  | .text s _ => match readNumber? s with
    | some x => .ok (.float x)
    | Option.none => .error .invalidOperation
  | value => match value.float? with
    | some x => .ok (.float x)
    | Option.none => .error .invalidOperation

/-- A number rounded to some places after the point. -/
def rounded (places : Int) (value : Value) : Result Value :=
  match value with
  | .int n => .ok (.int n)
  | .float x =>
    let scale := (Binary64.ofInt 10).pow places
    .ok (.float (((scale.mul x).round).div scale))
  | _ => .error .invalidOperation

end Value

/-! ## Filters -/

/-- A filter: what a value becomes, given arguments. -/
abbrev Filter := Value → Arguments → Result Value

namespace Filter

/-- A filter that takes no arguments. -/
def alone (change : Value → Result Value) : Filter := fun value a => do
  a.upTo 0
  change value

/-- A filter that makes a text of a text. -/
def ofText (change : Text → Text) : Filter := alone fun value => .ok (.plain (change value.display))

/-- A filter that works on the items of a value and takes no arguments. -/
def ofItems (change : List Value → Result Value) : Filter := alone fun value => do
  change (← value.items)

/-- Absolute values of numbers. -/
def absolute : Value → Result Value
  | .int n => .ok (.int n.natAbs)
  | .float x => .ok (.float x.abs)
  | _ => .error .invalidOperation

/-- The number of items, which must be known. -/
def length (value : Value) : Result Value :=
  match value.length? with
  | some n => .ok (.int n)
  | none => .error .invalidOperation

/-- The first character or item. -/
def first (value : Value) : Result Value :=
  match value.given? with
  | some value => do return (← value.items).head?.getD .undefined
  | none => .error .invalidOperation

/-- The last character of a text or item of a list. -/
def last (value : Value) : Result Value :=
  match value.text?, value.sequence? with
  | some text, _ => .ok ((text.getLast?.map fun c => .plain [c]).getD .undefined)
  | _, some items => .ok (items.getLast?.getD .undefined)
  | _, _ => .error .invalidOperation

/-- The entries of a mapping. -/
def entries (value : Value) : Result (List (Value × Value)) :=
  match value.kind, value.entries? with
  | .map, some entries => .ok entries
  | _, _ => .error .invalidOperation

/-- Keys with their values as lists of two. -/
def pairs (entries : List (Value × Value)) : Value :=
  .list (entries.map fun (key, value) => .list [key, value])

/-- A text as it is, and the text of any other value. -/
def string : Value → Value
  | .text text safe => .text text safe
  | value => .plain value.display

/-- The value, or another one if it is missing. -/
def default : Filter := fun value a => do
  a.upTo 2
  let other := (a.value? 0).getD (.plain [])
  let lax ← a.flag 1
  return if value.isUndefined || (lax && !value.isTrue) then other else value

/-- The part of a value that has a name. -/
def attr : Filter := fun value a => do
  a.upTo 1
  let key ← a.value 0
  if value.isUndefined then .error .undefinedValue else .ok ((value.part? key).getD .undefined)

/-- A number rounded to some places. -/
def round : Filter := fun value a => do
  a.upTo 1
  value.rounded ((← a.int? 0).getD 0)

/-- A text without white space, or other characters, at its ends. -/
def trim : Filter := fun value a => do
  a.upTo 1
  let text := value.display
  return .plain (match ← a.text? 0 with
    | some chars => dropEndWhile chars.contains (text.dropWhile chars.contains)
    | none => Text.trim text)

/-- A text with a phrase replaced. -/
def replace : Filter := fun value a => do
  a.upTo 2
  return .plain (Value.replaced (← a.text 0) (← a.text 1) value.display)

/-- The texts of items put together. -/
def join : Filter := fun value a => do
  a.upTo 1
  return .plain (Value.joined ((← a.text? 0).getD []) (← value.items))

/-- The pieces of a text between separators. -/
def split : Filter := fun value a => do
  a.upTo 2
  let text := value.display
  let limit := match ← a.int? 1 with
    | some n => if n < 0 then text.length + 1 else n.toNat
    | none => text.length + 1
  return .series ((match ← a.text? 0 with
    | some phrase => Value.splitPhrase phrase (text.length + 1) limit text
    | none => Value.splitWords (text.length + 1) limit text).map .plain) false

/-- A text with its lines moved to the right. -/
def indent : Filter := fun value a => do
  a.upTo 3
  return .plain (Value.indented (← a.count 0) (← a.flag 1) (← a.flag 2) value.display)

/-- The items in order. -/
def sort : Filter := fun value a => do
  a.onlyNames 0 ["reverse", "case_sensitive", "attribute"]
  let key := Value.sortKey (← a.textNamed? "attribute")
  let sorted := Value.sortedBy (← a.flagNamed "case_sensitive") key (← value.items)
  return .list (if ← a.flagNamed "reverse" then sorted.reverse else sorted)

/-- The entries of a mapping in order, as lists of two. -/
def dictsort : Filter := fun value a => do
  a.onlyNames 0 ["by", "reverse", "case_sensitive"]
  let byValue ← match ← a.textNamed? "by" with
    | none => pure false
    | some wanted =>
      if wanted = "key".toList then pure false
      else if wanted = "value".toList then pure true
      else .error .invalidOperation
  let sorted := Value.sortedBy (← a.flagNamed "case_sensitive")
    (fun (entry : Value × Value) => if byValue then entry.2 else entry.1) (← entries value)
  return pairs (if ← a.flagNamed "reverse" then sorted.reverse else sorted)

/-- Each item once. -/
def unique : Filter := fun value a => do
  a.onlyNames 0 ["case_sensitive", "attribute"]
  let way ← a.textNamed? "attribute"
  let caseMatters ← a.flagNamed "case_sensitive"
  return .list (Value.distinct (fun item => Value.distinction caseMatters (Value.sortKey way item))
    (← value.items))

/-- Lists of so many items each. -/
def batch : Filter := fun value a => do
  a.upTo 2
  let size ← a.count 0
  if size = 0 then .error .invalidOperation
  else
    let items ← value.items
    let fill (list : List Value) : List Value := match a.value? 1 with
      | some filler => list ++ List.replicate (size - list.length) filler
      | none => list
    return .list ((Value.batches size items.length items).map fun list => .list (fill list))

/-- So many lists of items. -/
def slice : Filter := fun value a => do
  a.upTo 2
  let number ← a.count 0
  if number = 0 then .error .invalidOperation
  else return .list ((Value.columns number (a.value? 1) (← value.items)).map .list)

/-- Items that agree in a part, put together. -/
def groupby : Filter := fun value a => do
  a.onlyNames 1 ["attribute", "default", "case_sensitive"]
  let way ← match a.values.head?.bind Value.given? with
    | some (.text way _) => pure way
    | some _ => .error .invalidOperation
    | none => match ← a.textNamed? "attribute" with
      | some way => pure way
      | none => .error .missingArgument
  let key := Value.pathOr ((a.name? "default").getD .undefined) way
  let caseMatters ← a.flagNamed "case_sensitive"
  let sorted := Value.sortedBy caseMatters key (← value.items)
  return .list ((Value.grouped caseMatters key sorted).map fun (k, items) => .group k items)

/-- Items of several lists side by side. -/
def zip : Filter := fun value a => do
  let items ← value.items
  let others ← a.all.mapM Value.items
  return .list (Value.zipped (items.length + 1) (items :: others))

/-- Several lists, or several mappings, as one. -/
def chain : Filter := fun value a => do
  match value.kind with
  | .map =>
    let others ← a.all.mapM entries
    return .map (Value.entriesOf ((← entries value) ++ others.flatten))
  | _ => return .list ((← value.items) ++ (← a.all.mapM Value.items).flatten)

/-- The filters that depend on nothing but the value and the arguments. -/
def plain : List (List String × Filter) :=
  [(["upper"], ofText toUpper), (["lower"], ofText toLower), (["title"], ofText (Value.titleCase true)),
    (["capitalize"], ofText Value.capitalized), (["list"], ofItems fun items => .ok (.list items)),
    (["min"], ofItems fun items => .ok (Value.least items)),
    (["max"], ofItems fun items => .ok (Value.greatest items)), (["sum"], ofItems Value.total),
    (["safe"], alone fun value => .ok (.text value.display true)),
    (["escape", "e"], alone fun value => .ok (.text value.displayEscaped true)),
    (["string"], alone fun value => .ok (string value)),
    (["bool"], alone fun value => .ok (.bool value.isTrue)), (["int"], alone Value.toWhole),
    (["float"], alone Value.toFloat), (["abs"], alone absolute), (["length", "count"], alone length),
    (["lines"], alone fun value => .ok (.list ((Text.lines value.display).map .plain))),
    (["first"], alone first), (["last"], alone last), (["reverse"], alone Value.reversed),
    (["items"], alone fun value => do return pairs (← entries value)),
    (["pprint"], alone fun value => .ok (.plain (value.pretty 0))), (["default", "d"], default),
    (["attr"], attr), (["round"], round), (["trim"], trim), (["replace"], replace), (["join"], join),
    (["split"], split), (["indent"], indent), (["sort"], sort), (["dictsort"], dictsort),
    (["unique"], unique), (["batch"], batch), (["slice"], slice), (["groupby"], groupby),
    (["zip"], zip), (["chain"], chain)]

/-- The items that pass a test in what a function makes of them, or those that do not. -/
def chosen (wanted : Bool) (key : Value → Result Value) (testName : Option Text) (more : Arguments)
    (items : List Value) : Result Value := do
  let test ← match testName with
    | none => .ok (Test.alone Value.isTrue)
    | some name => match Test.named? name with
      | some test => .ok test
      | none => .error .unknownName
  return .list (← items.filterM fun item => do return (← test (← key item) more) == wanted)

/-- The filter that chooses items by what they are. -/
def select (wanted : Bool) : Filter := fun value a => do
  chosen wanted .ok (← a.text? 0) ⟨a.values.drop 1, a.named⟩ (← value.items)

/-- The filter that chooses items by one of their parts. -/
def selectattr (wanted : Bool) : Filter := fun value a => do
  let way ← a.text 0
  chosen wanted (Value.path · way) (← a.text? 1) ⟨a.values.drop 2, a.named⟩ (← value.items)

/-- The filter that takes one part of each item. -/
def mapAttribute (wanted : Value) : Filter := fun value a => do
  a.onlyNames 0 ["attribute", "default"]
  let other := (a.named.lookup "default".toList).getD .undefined
  let part (item : Value) : Result Value := match wanted.text? with
    | some way => item.path way
    | none => .ok ((item.part? wanted).getD .undefined)
  return .list (← (← value.items).mapM fun item =>
    match part item with
    | .ok found => .ok (if found.isUndefined then other else found)
    | .error e => if other.isUndefined then .error e else .ok other)

/-- The filter of a name; `fuel` bounds the filters that are arguments of filters. -/
def named? : (fuel : Nat) → (name : Text) → Option Filter
  | 0, _ => none
  | fuel + 1, name =>
    match String.ofList name with
    | "select" => some (select true)
    | "reject" => some (select false)
    | "selectattr" => some (selectattr true)
    | "rejectattr" => some (selectattr false)
    | "map" => some fun value a => do
      match a.name? "attribute" with
      | some wanted => mapAttribute wanted value a
      | none =>
        match a.values with
        | .text name _ :: rest =>
          match named? fuel name with
          | some filter => return .list (← (← value.items).mapM fun item => filter item ⟨rest, a.named⟩)
          | none => .error .unknownName
        | _ => .error .invalidOperation
    | name => (plain.find? fun (names, _) => names.contains name).map Prod.snd

/-- Applies the filter of a name. -/
def applied (name : Text) (value : Value) (a : Arguments) : Result Value :=
  match named? 8 name with
  | some filter => filter value a
  | none => .error .unknownName

end Filter

end DocSite.Template
