/-
# DocSite.Proofs.Site.Links -- where links to page sources lead

A link to a Markdown source by its path below the page root is retargeted by text alone: the ending of
the path gives way to the extension of the site (`Markdown.retarget_of_path`). The page of the source
has the same path in the output, unless its file name has an order in front, which links keep
(`outputPath_of_path`, `outputName_ordered`). So the link leads to the page just if there is no such
order, and if what follows the path does not look like an address with a host
(`retarget_eq_outputPath_iff`).
-/
import DocSite.Proofs.Markdown.Ending
import DocSite.Proofs.Page.Location

set_option autoImplicit false

namespace DocSite

open Text
open DocSite.Path (IsName)

variable {extension name dest stem suffix : Text} {names : List Text}

/-! ## Paths in the output -/

namespace Page

open Markdown (newEnding)

/-- A page of a Markdown source has the name of its source with the new ending, if there is no order in
front. -/
theorem outputName_plain (visible : stem.head? ≠ some '.') (filled : stem ≠ [])
    (free : splitOrder? (stem ++ ".md".toList) = none) :
    outputName extension (stem ++ ".md".toList) = stem ++ newEnding extension := by
  have notDot : stem ≠ ['.'] := fun same => visible (by rw [same]; rfl)
  have name : withoutOrder (stem ++ ".md".toList) = stem ++ '.' :: ['m', 'd'] := by
    rw [withoutOrder, free]
    rfl
  rw [outputName, name, nameWithExtension_append (by decide) filled, if_neg notDot]
  cases extension <;> simp [newEnding]

/-- What an order is taken from. -/
theorem eq_of_splitOrder {order : Nat} {rest : Text} (found : splitOrder? name = some (order, rest)) :
    ∃ digit digits, (digit :: digits).all Char.isDigit ∧ name = digit :: digits ++ '-' :: rest := by
  unfold splitOrder? at found
  dsimp only at found
  split at found
  next c more cut =>
    split at found
    · cases found
    next counts =>
      cases found
      have numeric : (name.takeWhile Char.isDigit).all Char.isDigit := List.all_takeWhile
      have start : name.take (name.takeWhile Char.isDigit).length = name.takeWhile Char.isDigit :=
        (List.prefix_iff_eq_take.mp (List.takeWhile_prefix _)).symm
      have whole := List.take_append_drop (name.takeWhile Char.isDigit).length name
      rw [start, cut] at whole
      cases digits : name.takeWhile Char.isDigit with
      | nil => simp [digits] at counts
      | cons digit digits' =>
        rw [digits] at whole numeric
        exact ⟨digit, digits', numeric, whole.symm⟩
  · cases found

/-- A page does not have the name of its source with the new ending, if there is an order in front. -/
theorem outputName_ordered (ordered : (splitOrder? (stem ++ ".md".toList)).isSome) :
    outputName extension (stem ++ ".md".toList) ≠ stem ++ newEnding extension := by
  obtain ⟨⟨order, rest⟩, found⟩ := Option.isSome_iff_exists.mp ordered
  obtain ⟨digit, digits, numeric, whole⟩ := eq_of_splitOrder found
  have noDot : '.' ∉ digit :: digits ++ ['-'] := by
    intro member
    rcases List.mem_append.mp member with member | member
    · exact absurd (List.all_eq_true.mp numeric _ member) (by decide)
    · exact absurd member (by decide)
  have start : digit ≠ '.' := fun same => noDot (by simp [same])
  have name : withoutOrder (stem ++ ".md".toList) = rest := by rw [withoutOrder, found]
  rw [outputName, name]
  rw [List.append_cons] at whole
  -- The last dot of the name stands behind the order.
  rcases exists_last_split '.' rest with undotted | ⟨inner, tail, rfl, last⟩
  · have member : '.' ∈ stem ++ ".md".toList := by simp
    rw [whole] at member
    exact absurd member (fun inside => (List.mem_append.mp inside).elim noDot undotted)
  rw [← List.append_assoc] at whole
  obtain ⟨outer, ending⟩ : stem = digit :: digits ++ ['-'] ++ inner ∧ ['m', 'd'] = tail :=
    eq_of_last_split (by decide) last whole
  subst outer ending
  intro same
  by_cases none : inner = []
  · rw [none, List.nil_append, nameWithExtension_dotted last (by simp)] at same
    split at same <;> exact start (List.cons.inj same).1.symm
  · rw [nameWithExtension_append last none] at same
    split at same
    · exact start (List.cons.inj same).1.symm
    · have shorter : inner.length + (newEnding extension).length =
          (digit :: digits ++ ['-'] ++ inner ++ newEnding extension).length := by
        rw [← same]
        cases extension <;> simp [newEnding]
      simp only [List.length_append, List.length_cons] at shorter
      omega

end Page

namespace Site

open Page (outputName splitOrder?)
open Markdown (IsSuffix newEnding retarget?)

variable {site : Site} {path : Text}

/-- Names with a slash after each of them. -/
def leading (outer : List Text) : Text := outer.flatMap fun name => name ++ ['/']

theorem join_concat (outer : List Text) (name : Text) :
    join ['/'] (outer ++ [name]) = leading outer ++ name := by
  induction outer with
  | nil => rfl
  | cons first outer ih =>
    cases more : outer ++ [name] with
    | nil => simp at more
    | cons next rest =>
      rw [more] at ih
      rw [List.cons_append, more, join, ih]
      · simp [leading]
      · simp

theorem exists_pieces {ending : Text} (plain : '/' ∉ ending) (ends : ending <:+ path) :
    ∃ outer stem, splitOn '/' path = outer ++ [stem ++ ending] := by
  obtain ⟨before, rfl⟩ := ends
  rcases exists_last_split '/' before with flat | ⟨above, stem, rfl, last⟩
  · have whole : '/' ∉ before ++ ending := by simp [flat, plain]
    exact ⟨[], before, splitOn_of_not_mem whole⟩
  · have whole : '/' ∉ stem ++ ending := by simp [last, plain]
    refine ⟨splitOn '/' above, stem, ?_⟩
    rw [List.append_assoc, List.cons_append, splitOn_append, splitOn_of_not_mem whole]

/-- The names of a source by its path below the page root. -/
theorem sourceNames_join (root : Path) (nonempty : names ≠ []) (named : ∀ name ∈ names, IsName name) :
    Page.sourceNames (root.join ⟨join ['/'] names⟩) root = names := by
  have below : Path.below? root (root.join ⟨join ['/'] names⟩) = some (names.map .name) :=
    Path.below_eq_some.mpr (Page.parts_join root nonempty named)
  rw [Page.sourceNames, below]
  simp [Path.names, List.filterMap_map]

theorem name_join (root : Path) {outer : List Text} (named : ∀ piece ∈ outer ++ [name], IsName piece) :
    (root.join ⟨join ['/'] (outer ++ [name])⟩).name? = some name := by
  rw [Path.name?, Page.parts_join root (by simp) named]
  simp

/-- A link to a Markdown source of a site, by its path below the page root, leads to the page that is
written for it just if the file name has no order in front and no host stands in what follows the
path. -/
theorem retarget_eq_outputPath_iff (named : ∀ piece ∈ splitOn '/' path, IsName piece)
    (unmarked : ∀ c ∈ path, c ≠ '#' ∧ c ≠ '?' ∧ c ≠ ':') (ends : ".md".toList <:+ path)
    (source : site.isPageSource (site.settings.root.join ⟨path⟩) = true) (follows : IsSuffix suffix) :
    retarget? site.settings.extension (path ++ suffix) =
        some (site.outputPath (site.settings.root.join ⟨path⟩) ++ suffix) ↔
      (splitOn '/' path).getLast?.bind splitOrder? = none ∧ ¬"://".toList <:+: suffix := by
  obtain ⟨outer, stem, pieces⟩ := exists_pieces (by decide) ends
  have whole : path = leading outer ++ stem ++ ".md".toList := by
    rw [← join_splitOn '/' path, pieces, join_concat, List.append_assoc]
  rw [pieces] at named
  -- The name of the source is not hidden, so that it has more than its ending.
  have last := name_join site.settings.root named
  rw [← pieces, join_splitOn] at last
  have visible : (stem ++ ".md".toList).head? ≠ some '.' := by
    simpa [isHidden] using not_hidden_of_isPageSource source last
  have filled : stem ≠ [] := by
    rintro rfl
    exact visible (by decide)
  have visible' : stem.head? ≠ some '.' := by
    rwa [List.head?_append_of_ne_nil _ filled] at visible
  have page : site.outputPath (site.settings.root.join ⟨path⟩) =
      leading outer ++ outputName site.settings.extension (stem ++ ".md".toList) := by
    have names := sourceNames_join site.settings.root (by simp) named
    rw [← pieces, join_splitOn, pieces] at names
    have own : site.outputPath (site.settings.root.join ⟨path⟩) = Page.outputPath
        (site.settings.root.join ⟨path⟩) site.settings.root site.settings.extension := rfl
    rw [own, Page.outputPath, names, Page.outputNames_concat, join_concat]
  have inside : (leading outer ++ stem).head? ≠ some '/' := by
    have relative := Path.head_join_names (by simp) named
    rwa [← pieces, join_splitOn, whole, List.head?_append_of_ne_nil _ (by simp [filled])] at relative
  have unmarked' : ∀ c ∈ leading outer ++ stem, c ≠ '#' ∧ c ≠ '?' ∧ c ≠ ':' :=
    fun c member => unmarked c (by rw [whole]; exact List.mem_append_left _ member)
  have target : retarget? site.settings.extension (leading outer ++ stem ++ ".md".toList ++
      suffix) = _ :=
    Markdown.retarget_of_path inside unmarked' follows
  rw [← whole] at target
  rw [target, page, pieces, List.getLast?_concat, Option.bind_some]
  by_cases host : "://".toList <:+: suffix
  · rw [if_pos host]
    exact iff_of_false (by simp) (fun both => both.2 host)
  · rw [if_neg host, Option.some.injEq, List.append_cancel_right_eq, List.append_assoc,
      List.append_cancel_left_eq]
    constructor
    · intro same
      refine ⟨?_, host⟩
      by_contra ordered
      exact Page.outputName_ordered (Option.isSome_iff_ne_none.mpr ordered) same.symm
    · rintro ⟨free, -⟩
      exact (Page.outputName_plain visible' filled free).symm

/-- A site of guides, with the settings of a site that chooses none. -/
def guides : Site := .create .standard .empty Layouts.builtin.engine .standard

theorem link_to_setup_leads_to_its_page :
    retarget? guides.settings.extension "guides/v1.2/setup.md#install".toList =
      some (guides.outputPath ⟨"docs/guides/v1.2/setup.md".toList⟩ ++ "#install".toList) :=
  (@retarget_eq_outputPath_iff "#install".toList guides "guides/v1.2/setup.md".toList
    (by decide +kernel) (by simp) (by decide) (by decide +kernel)
    (fun _ mark => .inl (by simpa using mark.symm))).mpr ⟨by decide +kernel, by decide⟩

/-- A link keeps the order of a file name, and is left alone where its query holds an address. -/
theorem not_every_link_leads_to_its_page :
    retarget? guides.settings.extension "01-intro.md".toList = some "01-intro.html".toList ∧
    guides.outputPath ⟨"docs/01-intro.md".toList⟩ = "intro.html".toList ∧
    retarget? guides.settings.extension "intro.md?from=https://a.b".toList = none ∧
    ¬∀ (site : Site) (path suffix : Text), (∀ piece ∈ splitOn '/' path, IsName piece) →
      (∀ c ∈ path, c ≠ '#' ∧ c ≠ '?' ∧ c ≠ ':') → ".md".toList <:+ path →
      site.isPageSource (site.settings.root.join ⟨path⟩) = true → IsSuffix suffix →
      retarget? site.settings.extension (path ++ suffix) =
        some (site.outputPath (site.settings.root.join ⟨path⟩) ++ suffix) := by
  refine ⟨by decide +kernel, by decide +kernel, by decide +kernel, fun all => ?_⟩
  have leads := all guides "01-intro.md".toList [] (by decide +kernel) (by simp) (by decide)
    (by decide +kernel) (fun _ mark => nomatch mark)
  exact absurd leads (by decide +kernel)

end Site

end DocSite
