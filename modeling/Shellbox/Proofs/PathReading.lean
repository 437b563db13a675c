import Shellbox.FileTree.AnchoredPath
import Shellbox.Proofs.PathText
/-!
# What a path text means

A path text means the components of one text, looked at without the tree and without anchors: of the
text itself if it starts with a slash, and otherwise of the working directory followed by it
(`Path.subject`). Empty components and `.` do not count, and each `..` takes the component kept last
before it, if there is one (`Path.lexical`).

That a text is read part by part (`Path.read_eq_lexical`) comes down to two facts about cutting at
slashes: a part that does not count may be dropped beforehand, and the parts of two texts with a
slash between them are those of the one followed by those of the other.

Reading by way of the anchor comes to the same path (`AnchoredPath.normalized_eq`). The root of two
slashes is the only anchor that is kept as a component. It stands in front of all others, so that a
`..` takes it only when nothing else is left (`AnchoredPath.foldl_climb_cons`), and what is left of
it in the end are three slashes or more in front of the text, which mean the plain root.
-/

namespace Shellbox

/-- The pieces between separators are those of the library. -/
theorem Text.pieces_eq_splitOn {α : Type} [DecidableEq α] (sep : α) (text : List α) :
    pieces sep text = text.splitOn sep := by
  induction text with
  | nil => rw [pieces, List.splitOn_nil]
  | cons c rest ih =>
    rw [pieces, List.splitOn_cons_eq_if_modifyHead, ih]
    by_cases hc : c = sep
    · simp [hc]
    · rw [if_neg hc, if_neg (by simpa using hc)]
      cases hpieces : rest.splitOn sep with
      | nil => exact absurd (ih.trans hpieces) (pieces_ne_nil sep rest)
      | cons first others => rfl

namespace Path

/-- Goes on by one component: `..` takes the component kept last, if there is one. -/
def climb (kept : Path) (part : String) : Path :=
  if part = ".." then kept.dropLast else kept ++ [part]

/-- The path that a text means by its components alone. -/
def lexical (text : String) : Path :=
  (((text.toList.splitOn '/').map String.ofList).filter fun part => part ≠ "" ∧ part ≠ ".").foldl
    climb []

/-- The text whose components count: a text that starts with a slash alone, otherwise the working
directory followed by the text. -/
def subject (cwd : String) : Option String → String
  | none => cwd
  | some text =>
    if text = "" then cwd
    else if isAbsolute text then text
    else cwd ++ "/" ++ text

variable {base kept : Path}

/-! ### Reading part by part -/

theorem lexical_eq (text : String) :
    lexical text = (AnchoredPath.components text.toList).foldl climb [] := rfl

/-- The parts of a text that do not count may be dropped before it is read. -/
theorem extend_eq_foldl_climb (base : Path) (text : String) :
    extend base text = (AnchoredPath.components text.toList).foldl climb base := by
  rw [extend, parts, Text.pieces_eq_splitOn, AnchoredPath.components, List.foldl_filter]
  congr 1
  funext kept part
  by_cases hskip : part = "" ∨ part = "."
  · rcases hskip with rfl | rfl <;> simp [step]
  · obtain ⟨hempty, hdot⟩ := not_or.1 hskip
    simp [step, climb, hempty, hdot]

/-- A slash between two texts separates their components. -/
theorem components_append (front back : List Char) :
    AnchoredPath.components (front ++ '/' :: back) =
      AnchoredPath.components front ++ AnchoredPath.components back := by
  have hcut : (front ++ '/' :: back).splitOn '/' = front.splitOn '/' ++ back.splitOn '/' := by
    simp only [List.splitOn_eq_splitOnP]
    exact List.splitOnP_append_cons front back rfl
  simp only [AnchoredPath.components, hcut, List.map_append, List.filter_append]

theorem extend_slash (base : Path) (first second : String) :
    extend base (first ++ "/" ++ second) = extend (extend base first) second := by
  simp only [extend_eq_foldl_climb, String.toList_append, List.append_assoc]
  rw [show "/".toList ++ second.toList = '/' :: second.toList from rfl, components_append,
    List.foldl_append]

theorem extend_empty (base : Path) : extend base "" = base := by
  simp [extend, parts, Text.pieces, step]

/-- **A path text means what its components say.** -/
theorem read_eq_lexical (cwd : String) (text : Option String) :
    read cwd text = lexical (subject cwd text) := by
  cases text with
  | none => rw [read, Option.getD_none, readFrom, extend_empty, lexical_eq, subject,
      ← extend_eq_foldl_climb]; rfl
  | some text =>
    rw [read, Option.getD_some, readFrom, lexical_eq, ← extend_eq_foldl_climb, subject]
    by_cases hempty : text = ""
    · subst hempty
      rw [if_pos rfl, extend_empty]
      rfl
    · rw [if_neg hempty]
      by_cases habsolute : isAbsolute text
      · rw [if_pos habsolute, if_pos habsolute]
      · rw [if_neg habsolute, if_neg habsolute, extend_slash]

/-- The text of a path as a working directory is the path. -/
theorem read_from_render (hbase : ∀ name ∈ base, Edit.isName name) (text : String) :
    read base.render (some text) = readFrom base text := by
  rw [read, Option.getD_some, extend_render hbase]

/-- The text of a path starts with one slash. -/
theorem takeWhile_render (hnames : ∀ name ∈ kept, Edit.isName name) :
    kept.render.toList.takeWhile (· == '/') = ['/'] := by
  rw [toList_render, List.takeWhile_cons_of_pos rfl]
  cases kept with
  | nil => rfl
  | cons first rest =>
    obtain ⟨hempty, -, -, hslash⟩ := isName_iff.1 (hnames first List.mem_cons_self)
    obtain ⟨c, more, hfirst⟩ : ∃ c more, first.toList = c :: more :=
      List.exists_cons_of_ne_nil (by simpa using hempty)
    have hc : (c == '/') = false := by
      rw [beq_eq_false_iff_ne]
      rintro rfl
      exact hslash (by rw [hfirst]; exact List.mem_cons_self)
    cases rest with
    | nil => simp [Text.joined, hfirst, hc]
    | cons second others => simp [Text.joined, hfirst, hc]

end Path

/-! ### Reading by way of the anchor -/

namespace AnchoredPath

open Shellbox.Path (climb)

variable {names : List String} {text : List Char}

theorem components_slash (text : List Char) : components ('/' :: text) = components text :=
  Path.components_append [] text

/-- Slashes in front of a text are between no components. -/
theorem components_dropWhile (text : List Char) :
    components (text.dropWhile (· == '/')) = components text := by
  induction text with
  | nil => rfl
  | cons c text ih =>
    rw [List.dropWhile_cons]
    split
    · next hc => rw [ih, eq_of_beq hc, components_slash]
    · rfl

theorem names_ofText (text : String) : (ofText text).names = components text.toList :=
  components_dropWhile text.toList

/-- A component is not empty, is not `.` and holds no slash. -/
theorem of_mem_components {part : String} (h : part ∈ components text) :
    part ≠ "" ∧ part ≠ "." ∧ '/' ∉ part.toList := by
  obtain ⟨hmem, hcounts⟩ := List.mem_filter.1 h
  obtain ⟨hempty, hdot⟩ := of_decide_eq_true hcounts
  obtain ⟨piece, hpiece, rfl⟩ := List.mem_map.1 hmem
  rw [← Text.pieces_eq_splitOn] at hpiece
  refine ⟨hempty, hdot, ?_⟩
  rw [String.toList_ofList]
  exact Text.not_mem_of_mem_pieces hpiece

/-- What can stand between slashes is read again from a text that it was joined to with slashes. -/
theorem components_joinWith (h : ∀ part ∈ names, part ≠ "" ∧ part ≠ "." ∧ '/' ∉ part.toList) :
    components (Text.joinWith "/" names).toList = names := by
  rw [Text.toList_joinWith]
  cases names with
  | nil => rfl
  | cons first rest =>
    have hpieces : ∀ piece ∈ (first :: rest).map String.toList, '/' ∉ piece :=
      List.forall_mem_map.2 fun part hpart => (h part hpart).2.2
    have hcut : Text.pieces '/' (Text.joined "/".toList ((first :: rest).map String.toList)) =
        (first :: rest).map String.toList := Text.pieces_joined (by simp) hpieces
    rw [components, ← Text.pieces_eq_splitOn, hcut, List.map_map, List.filter_eq_self.2]
    · simp
    · intro part hpart
      obtain ⟨given, hgiven, rfl⟩ := List.mem_map.1 hpart
      obtain ⟨hempty, hdot, -⟩ := h given hgiven
      simp [hempty, hdot]

/-- The components of a text that is written for a path of names are these names. -/
theorem components_render (hnames : ∀ name ∈ names, Edit.isName name) :
    components (Path.render names).toList = names := by
  have hjoined : (Path.render names).toList = '/' :: (Text.joinWith "/" names).toList :=
    String.toList_append
  rw [hjoined, components_slash, components_joinWith fun name hname => ?_]
  obtain ⟨hempty, hdot, -, hslash⟩ := Path.isName_iff.1 (hnames name hname)
  exact ⟨hempty, hdot, hslash⟩

/-- Of a component that can stand in a text, going on by a part is going on by a component. -/
theorem visit_eq_climb {part : String} (h : part ≠ "" ∧ part ≠ "." ∧ '/' ∉ part.toList)
    (kept : List String) : visit kept part = climb kept part := by
  obtain ⟨hempty, hdot, hslash⟩ := h
  have hroot : part ≠ "/" := by
    rintro rfl
    exact hslash List.mem_cons_self
  rw [visit, if_neg (by simp [hempty, hdot, hroot])]
  rfl

theorem foldl_visit_eq_foldl_climb
    (h : ∀ part ∈ names, part ≠ "" ∧ part ≠ "." ∧ '/' ∉ part.toList) (kept : List String) :
    names.foldl visit kept = names.foldl climb kept := by
  induction names generalizing kept with
  | nil => rfl
  | cons part names ih =>
    obtain ⟨hpart, hnames⟩ := List.forall_mem_cons.1 h
    rw [List.foldl_cons, List.foldl_cons, visit_eq_climb hpart, ih hnames]

/-- **What stands in front of all other components** stays there, or it is taken by a `..` that
finds nothing else; without it that `..` would have found nothing. -/
theorem foldl_climb_cons (top : String) (kept names : List String) :
    names.foldl climb (top :: kept) = top :: names.foldl climb kept ∨
      names.foldl climb (top :: kept) = names.foldl climb kept := by
  induction names generalizing kept with
  | nil => exact Or.inl rfl
  | cons part names ih =>
    rw [List.foldl_cons, List.foldl_cons]
    by_cases hup : part = ".."
    · cases kept with
      | nil => exact Or.inr (by simp [climb, hup])
      | cons first rest =>
        simp only [climb, if_pos hup, List.dropLast_cons_cons]
        exact ih _
    · simp only [climb, if_neg hup, List.cons_append]
      exact ih _

/-- The anchor counts for nothing in the end, or it is the root of two slashes and stands in front
of the components. -/
theorem foldl_visit_parts (path : AnchoredPath)
    (h : ∀ part ∈ path.names, part ≠ "" ∧ part ≠ "." ∧ '/' ∉ part.toList) :
    path.parts.foldl visit [] = path.names.foldl climb [] ∨
      path.parts.foldl visit [] = "//" :: path.names.foldl climb [] := by
  rcases path with ⟨anchor, names⟩
  rw [parts, List.foldl_append, foldl_visit_eq_foldl_climb h]
  cases anchor with
  | relative => exact Or.inl rfl
  | root => exact Or.inl rfl
  | doubled => exact (foldl_climb_cons "//" [] names).symm

/-- A text with one slash in front, or more than two, is anchored at the root. -/
theorem ofText_render (hnames : ∀ name ∈ names, Edit.isName name) :
    ofText (Path.render names) = ⟨.root, names⟩ := by
  have hcomponents := names_ofText (Path.render names)
  rw [components_render hnames] at hcomponents
  rw [ofText, Path.takeWhile_render hnames]
  rw [ofText] at hcomponents
  exact congrArg (mk .root) hcomponents

theorem ofText_render_doubled (hnames : ∀ name ∈ names, Edit.isName name) :
    ofText ("/" ++ Text.joinWith "/" ("//" :: names)) = ⟨.root, names⟩ := by
  cases names with
  | nil => rfl
  | cons first rest =>
    have htext : ("/" ++ Text.joinWith "/" ("//" :: first :: rest)).toList =
        '/' :: '/' :: '/' :: (Path.render (first :: rest)).toList := by
      rw [Path.toList_render, String.toList_append, Text.toList_joinWith]
      rfl
    have hcomponents := names_ofText ("/" ++ Text.joinWith "/" ("//" :: first :: rest))
    rw [htext, components_slash, components_slash, components_slash, components_render hnames]
      at hcomponents
    rw [ofText] at hcomponents ⊢
    rw [htext, List.takeWhile_cons_of_pos rfl, List.takeWhile_cons_of_pos rfl,
      List.takeWhile_cons_of_pos rfl, Path.takeWhile_render hnames, ← htext]
    exact congrArg (mk .root) hcomponents

theorem anchor_ofText_eq_relative_iff {text : String} :
    (ofText text).anchor = .relative ↔ Path.isAbsolute text = false := by
  rw [ofText, Path.isAbsolute]
  cases htext : text.toList with
  | nil => simp [Anchor.ofSlashes]
  | cons c rest =>
    by_cases hc : c = '/'
    · subst hc
      rw [List.takeWhile_cons_of_pos rfl, List.length_cons]
      rcases (rest.takeWhile (· == '/')).length with _ | _ | n <;> simp [Anchor.ofSlashes]
    · rw [List.takeWhile_cons_of_neg (by simpa using hc)]
      simp [Anchor.ofSlashes, hc]

theorem names_join_root (path : AnchoredPath) : ((ofText "/").join path).names = path.names := by
  rcases path with ⟨_ | _ | _, names⟩ <;> rfl

theorem names_join_of_relative {first second : AnchoredPath} (h : second.anchor = .relative) :
    (first.join second).names = first.names ++ second.names := by
  rw [join, h]

/-- The components that are brought to the root are those of the text whose components count. -/
theorem names_located (cwd : String) (text : Option String) :
    (located cwd text).names = components (Path.subject cwd text).toList := by
  cases text with
  | none => exact names_ofText cwd
  | some text =>
    rw [located, Path.subject]
    by_cases hempty : text = ""
    · rw [if_pos hempty, if_pos hempty, names_ofText]
    · rw [if_neg hempty, if_neg hempty]
      by_cases habsolute : Path.isAbsolute text
      · rw [if_neg (by simp [anchor_ofText_eq_relative_iff, habsolute]), if_pos habsolute,
          names_ofText]
      · have hrelative : (ofText text).anchor = .relative :=
          anchor_ofText_eq_relative_iff.2 (Bool.not_eq_true _ ▸ habsolute)
        rw [if_pos hrelative, if_neg habsolute, names_join_of_relative hrelative, names_join_root,
          names_ofText, names_ofText, String.toList_append, String.toList_append,
          List.append_assoc]
        exact (Path.components_append cwd.toList text.toList).symm

/-- **Reading by way of the anchor** comes to the path that the text means. -/
theorem normalized_eq (cwd : String) (text : Option String) :
    normalized cwd text = ⟨.root, Path.read cwd text⟩ := by
  have hnames : ∀ name ∈ Path.read cwd text, Edit.isName name := Path.isName_of_mem_read cwd text
  have hread : (located cwd text).names.foldl climb [] = Path.read cwd text := by
    rw [names_located, Path.read_eq_lexical, Path.lexical_eq]
  have hparts := foldl_visit_parts (located cwd text) fun part hpart =>
    of_mem_components (names_located cwd text ▸ hpart)
  rw [hread] at hparts
  rw [normalized]
  rcases hparts with hparts | hparts
  · rw [hparts]
    cases hpath : Path.read cwd text with
    | nil => rfl
    | cons first rest => exact ofText_render (hpath ▸ hnames)
  · rw [hparts]
    exact ofText_render_doubled hnames

end AnchoredPath

/-! ### What follows for paths -/

namespace Path

/-- **A path text means what its components say**, and reading it by way of its anchor says the same.
So a path that was read has no empty component, no `.` and no `..`; its text starts with one slash and
means the path again in every working directory; and a relative text, read from the path of another
text, means what the two with a slash between them mean. -/
theorem reads_lexically (cwd : String) (text : Option String) :
    AnchoredPath.normalized cwd text = ⟨.root, lexical (subject cwd text)⟩ ∧
      read cwd text = lexical (subject cwd text) ∧
      (∀ name ∈ read cwd text, name ≠ "" ∧ name ≠ "." ∧ name ≠ ".." ∧ '/' ∉ name.toList) ∧
      (read cwd text).render.toList.takeWhile (· == '/') = ['/'] ∧
      (∀ other, read other (some (read cwd text).render) = read cwd text) ∧
      ∀ first second, text = some first → first ≠ "" → isAbsolute second = false →
        read (read cwd text).render (some second) = read cwd (some (first ++ "/" ++ second)) := by
  have hnames : ∀ name ∈ read cwd text, Edit.isName name := isName_of_mem_read cwd text
  refine ⟨?_, read_eq_lexical cwd text, fun name hname => isName_iff.1 (hnames name hname),
    takeWhile_render hnames, read_render hnames, ?_⟩
  · rw [AnchoredPath.normalized_eq, read_eq_lexical]
  · rintro first second rfl hfirst hsecond
    have habsolute : isAbsolute (first ++ "/" ++ second) = isAbsolute first := by
      obtain ⟨c, rest, htext⟩ : ∃ c rest, first.toList = c :: rest :=
        List.exists_cons_of_ne_nil (by simpa using hfirst)
      simp [isAbsolute, htext]
    rw [read_from_render hnames, readFrom, hsecond]
    simp only [read, Option.getD_some, readFrom, habsolute, extend_slash]
    rfl

/-- A text with two slashes in front, and one that goes up beyond the root that they mean. -/
theorem two_slashes_read_lexically :
    AnchoredPath.normalized "x" (some "//a/../..") = ⟨.root, []⟩ ∧
      read (read "x" (some "//a/../..")).render (some "b/./c") = ["b", "c"] := by
  obtain ⟨hanchored, -, -, -, -, hbehind⟩ := reads_lexically "x" (some "//a/../..")
  refine ⟨hanchored.trans (by decide +kernel), ?_⟩
  rw [hbehind "//a/../.." "b/./c" rfl (by decide) (by decide +kernel)]
  decide +kernel

end Path
end Shellbox
