/-
# DocSite.Proofs.Site.Orders -- the order that a file name gives its page

A file name has an order in front if it begins with decimal digits and a hyphen, if a name is left behind these, and if
the number has no more than 63 bits (`Page.Ordered`); there may be any number of zeros before it. These are the names
that are split (`Page.splitOrder_iff`). The output path of a page and its order come of the same split of the same
name, so that a page whose front matter leaves its order open has one just if its output path has lost a number in
front, and then the page has this number (`orders_are_taken_off`).
-/
import DocSite.Proofs.Site.Links
import DocSite.Proofs.Site.Reachable
import Mathlib.Data.Nat.Digits.Defs

set_option autoImplicit false

namespace DocSite

namespace Text

/-- A number is read as the sum of its digits, each times the power of ten that belongs to its place. -/
theorem readDecimal_eq (digits : Text) :
    readDecimal digits = Nat.ofDigits 10 (digits.reverse.map digitValue) := by
  induction digits using List.reverseRecOn with
  | nil => rfl
  | append_singleton digits c ih =>
    have last : readDecimal (digits ++ [c]) = readDecimal digits * 10 + digitValue c := by
      rw [readDecimal, List.foldl_append]
      rfl
    rw [last, ih, List.reverse_append, List.map_append]
    show _ = Nat.ofDigits 10 (digitValue c :: digits.reverse.map digitValue)
    rw [Nat.ofDigits_cons]
    omega

end Text

namespace Page

open Text

variable {name digits rest : Text} {order : Nat}

/-! ## Names with an order in front -/

/-- A file name with an order in front, the order, and the name proper. -/
inductive Ordered : Text → Nat → Text → Prop
  | intro {digits rest : Text} (numbered : digits ≠ []) (numeric : ∀ c ∈ digits, '0' ≤ c ∧ c ≤ '9')
      (bounded : Nat.ofDigits 10 (digits.reverse.map digitValue) ≤ 2 ^ 63 - 1) (named : rest ≠ []) :
      Ordered (digits ++ '-' :: rest) (Nat.ofDigits 10 (digits.reverse.map digitValue)) rest

theorem isDigit_iff_le {c : Char} : c.isDigit = true ↔ '0' ≤ c ∧ c ≤ '9' := by
  show (decide ('0'.val ≤ c.val) && decide (c.val ≤ '9'.val)) = true ↔ _
  rw [Bool.and_eq_true, decide_eq_true_eq, decide_eq_true_eq]
  rfl

/-- All digits that a name begins with are read, up to the hyphen. -/
theorem splitOrder_digits (numeric : ∀ c ∈ digits, c.isDigit = true) (numbered : digits ≠ []) (named : rest ≠ []) :
    splitOrder? (digits ++ '-' :: rest) =
      if maxOrder < readDecimal digits then none else some (readDecimal digits, rest) := by
  have front : (digits ++ '-' :: rest).takeWhile Char.isDigit = digits := by
    rw [List.takeWhile_append_of_pos numeric, List.takeWhile_cons_of_neg (by decide), List.append_nil]
  obtain ⟨c, more, rfl⟩ := List.exists_cons_of_ne_nil named
  simp only [splitOrder?, front, List.drop_left]
  simp [numbered]

theorem splitOrder_hyphen (numeric : ∀ c ∈ digits, c.isDigit = true) : splitOrder? (digits ++ ['-']) = none := by
  have front : (digits ++ ['-']).takeWhile Char.isDigit = digits := by
    rw [List.takeWhile_append_of_pos numeric, List.takeWhile_cons_of_neg (by decide), List.append_nil]
  simp only [splitOrder?, front, List.drop_left]

/-- The names that are split are those with an order in front. -/
theorem splitOrder_iff : splitOrder? name = some (order, rest) ↔ Ordered name order rest := by
  constructor
  · intro found
    obtain ⟨digit, digits, numeric, rfl⟩ := eq_of_splitOrder found
    have numeric' : ∀ c ∈ digit :: digits, c.isDigit = true := fun c member => List.all_eq_true.mp numeric c member
    have named : rest ≠ [] := by
      rintro rfl
      rw [splitOrder_hyphen numeric'] at found
      cases found
    rw [splitOrder_digits numeric' (List.cons_ne_nil _ _) named] at found
    split at found
    · cases found
    next bounded =>
      have value : readDecimal (digit :: digits) = order := by
        injection found with both
        exact (Prod.mk.inj both).1
      rw [readDecimal_eq] at bounded value
      subst value
      exact .intro (List.cons_ne_nil _ _) (fun c member => isDigit_iff_le.mp (numeric' c member))
        (Nat.le_of_not_lt bounded) named
  · rintro ⟨numbered, numeric, bounded, named⟩
    rw [splitOrder_digits (fun c member => isDigit_iff_le.mpr (numeric c member)) numbered named, readDecimal_eq]
    exact if_neg (Nat.not_lt.mpr bounded)

/-- A name without an order in front stays as it is. -/
theorem splitOrder_none (plain : ∀ order rest, ¬Ordered name order rest) :
    splitOrder? name = none ∧ withoutOrder name = name := by
  have none : splitOrder? name = none := by
    rw [Option.eq_none_iff_forall_ne_some]
    rintro ⟨order, rest⟩ found
    exact plain order rest (splitOrder_iff.mp found)
  exact ⟨none, by rw [withoutOrder, none]⟩

theorem Ordered.withoutOrder_eq (ordered : Ordered name order rest) : withoutOrder name = rest := by
  rw [withoutOrder, splitOrder_iff.mpr ordered]

/-- The name proper is shorter. -/
theorem Ordered.ne (ordered : Ordered name order rest) : rest ≠ name := by
  cases ordered
  intro same
  have lengths := congrArg List.length same
  rw [List.length_append, List.length_cons] at lengths
  omega

/-- The largest order with zeros before it, and the number after it. -/
example : splitOrder? "009223372036854775807-a.md".toList = some (9223372036854775807, "a.md".toList) ∧
    splitOrder? "9223372036854775808-a.md".toList = none := by decide

end Page

namespace Site

open Page (FrontMatter Ordered Record splitOrder? withoutOrder)

variable {path : Path} {files : FileTree} {kept : Kept} {page : Record} {name : Text}

/-! ## The order of a page -/

/-- What a page is read of has a file name. -/
theorem name_of_read {reader : PageReader} (read : (reader.read files kept path).page = .ok (some page)) :
    ∃ name, path.name? = some name := by
  obtain ⟨text, -, there, -⟩ := exists_text_of_read read
  obtain ⟨-, ending, -⟩ := FileTree.entryAt_eq_file.mp there
  obtain ⟨named, -⟩ := Bool.and_eq_true_iff.mp ending
  exact Option.isSome_iff_exists.mp named

/-- A file name gives the order that is in front of it. -/
theorem nameOrder_eq_some (last : path.name? = some name) {order : Int} :
    PageReader.nameOrder? path = some order ↔ ∃ n : Nat, order = n ∧ Ordered name n (withoutOrder name) := by
  rw [PageReader.nameOrder?, last, Option.bind_some, Option.map_eq_some_iff]
  constructor
  · rintro ⟨⟨n, rest⟩, found, rfl⟩
    have ordered := Page.splitOrder_iff.mp found
    exact ⟨n, rfl, by rwa [ordered.withoutOrder_eq]⟩
  · rintro ⟨n, rfl, ordered⟩
    exact ⟨(n, withoutOrder name), Page.splitOrder_iff.mpr ordered, rfl⟩

theorem nameOrder_ne_none (last : path.name? = some name) :
    PageReader.nameOrder? path ≠ none ↔ withoutOrder name ≠ name := by
  constructor
  · intro some
    obtain ⟨order, found⟩ := Option.ne_none_iff_exists'.mp some
    obtain ⟨n, -, ordered⟩ := (nameOrder_eq_some last).mp found
    exact ordered.ne
  · intro shorter none
    refine shorter (Page.splitOrder_none fun n rest ordered => ?_).2
    have found := (nameOrder_eq_some last).mpr ⟨n, rfl, by rwa [ordered.withoutOrder_eq]⟩
    rw [none] at found
    cases found

/-- A name is split just if it has an order in front, and is kept as it is otherwise. A page whose front matter leaves
its order open takes it from the name of its file, unless that is the page root itself: the page has an order just if
its output path has lost one, and then it is this one. -/
theorem orders_are_taken_off :
    (∀ (name rest : Text) (order : Nat), splitOrder? name = some (order, rest) ↔ Ordered name order rest) ∧
    (∀ name : Text, (∀ order rest, ¬Ordered name order rest) → splitOrder? name = none ∧ withoutOrder name = name) ∧
    ∀ (reader : PageReader) (files : FileTree) (kept : Kept) (path : Path) (page : Record),
      (reader.read files kept path).page = .ok (some page) → page.frontMatter.order? = none →
      path.parts ≠ reader.root.parts →
        ∃ outer name, Page.sourceNames path reader.root = outer ++ [name] ∧
          page.outputPath = Text.join ['/'] (outer ++ [Path.nameWithExtension reader.extension (withoutOrder name)]) ∧
          (page.order ≠ none ↔ withoutOrder name ≠ name) ∧
          ∀ order, page.order = some order ↔ ∃ n : Nat, order = n ∧ Ordered name n (withoutOrder name) := by
  refine ⟨fun name rest order => Page.splitOrder_iff, fun name => Page.splitOrder_none,
    fun reader files kept path page read unsaid inside => ?_⟩
  obtain ⟨name, last⟩ := name_of_read read
  obtain ⟨outer, names⟩ : ∃ outer, Page.sourceNames path reader.root = outer ++ [name] := by
    rcases Page.sourceNames_eq reader.root last with ⟨same, -⟩ | ⟨-, found⟩
    · exact absurd same inside
    · exact found
  obtain ⟨-, -, -, -, -, own, -, -, order⟩ := exists_text_of_read read
  rw [unsaid, Option.none_or] at order
  refine ⟨outer, name, names, ?_, ?_, fun n => ?_⟩
  · rw [own, PageReader.outputPath, Page.outputPath, names, Page.outputNames_concat]
    rfl
  · rw [order]
    exact nameOrder_ne_none last
  · rw [order]
    exact nameOrder_eq_some last

/-- A page whose name begins with the largest order, and with zeros before it. -/
def lastFiles : FileTree where
  entries :=
    [(["docs".toList], .directory),
     (["docs".toList, "009223372036854775807-last.md".toList],
      .file (.text "---\norder: 9223372036854775808\n---\n# Last\n".toList))]
  home := []

def lastPath : Path := ⟨"docs/009223372036854775807-last.md".toList⟩

def lastSite : Site := .create .standard .empty Layouts.builtin.engine .standard

theorem last_order_is_taken_off :
    ∃ page, (lastSite.reader.read lastFiles [] lastPath).page = .ok (some page) ∧
      page.frontMatter.order? = none ∧ lastPath.parts ≠ lastSite.reader.root.parts ∧
      page.outputPath = "last.html".toList ∧ page.order = some 9223372036854775807 ∧
      ∃ outer name, Page.sourceNames lastPath lastSite.reader.root = outer ++ [name] ∧
        page.outputPath = Text.join ['/'] (outer ++ [Path.nameWithExtension "html".toList (withoutOrder name)]) ∧
        (page.order ≠ none ↔ withoutOrder name ≠ name) ∧
        ∀ order, page.order = some order ↔ ∃ n : Nat, order = n ∧ Ordered name n (withoutOrder name) := by
  have shown : (lastSite.reader.read lastFiles [] lastPath).page.toOption.join.map
      (fun page => (page.frontMatter.order?, page.outputPath, page.order)) =
        some (none, "last.html".toList, some 9223372036854775807) := by decide +kernel
  obtain ⟨page, read, same⟩ := Option.map_eq_some_iff.mp shown
  obtain ⟨unsaid, outputPath, order⟩ : _ ∧ _ ∧ _ := by simpa only [Prod.mk.injEq] using same
  have found : (lastSite.reader.read lastFiles [] lastPath).page = .ok (some page) := reading_of_join read
  have inside : lastPath.parts ≠ lastSite.reader.root.parts := by decide +kernel
  exact ⟨page, found, unsaid, inside, outputPath, order,
    orders_are_taken_off.2.2 lastSite.reader lastFiles [] lastPath page found unsaid inside⟩

end Site

end DocSite
