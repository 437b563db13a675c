import Mathlib.Tactic.SplitIfs
import Shellbox.FileTree.Edit
/-!
# The components of a path that was read from a text

A path that comes from a text consists of names that a child can have: reading drops empty and `.`
components, takes `..` as the way up, and a component holds no slash since the text was cut at all
of them (`isName_of_mem_read`). And every path of such names comes from a text, the one that it is
written as: reading that text gives the path back from any working directory (`read_render`).
-/

namespace Shellbox

/-- No piece holds the separator. -/
theorem Text.not_mem_of_mem_pieces {α : Type} [DecidableEq α] {sep : α} {text piece : List α}
    (h : piece ∈ pieces sep text) : sep ∉ piece := by
  induction text generalizing piece with
  | nil =>
    rw [pieces, List.mem_singleton] at h
    rw [h]
    exact List.not_mem_nil
  | cons c rest ih =>
    rw [pieces] at h
    split at h
    · rcases List.mem_cons.1 h with rfl | h
      · exact List.not_mem_nil
      · exact ih h
    · next hc =>
      split at h
      · rw [List.mem_singleton.1 h, List.mem_singleton]
        exact fun he => hc he.symm
      · next first others hpieces =>
        rcases List.mem_cons.1 h with rfl | h
        · rw [List.mem_cons]
          rintro (he | hmem)
          · exact hc he.symm
          · exact ih (by rw [hpieces]; exact List.mem_cons_self) hmem
        · exact ih (by rw [hpieces]; exact List.mem_cons_of_mem _ h)

/-- A piece without separators ends at the first one. -/
theorem Text.pieces_append {α : Type} [DecidableEq α] {sep : α} {piece : List α} (h : sep ∉ piece)
    (rest : List α) : pieces sep (piece ++ sep :: rest) = piece :: pieces sep rest := by
  induction piece with
  | nil => rw [List.nil_append, pieces, if_pos rfl]
  | cons c piece ih =>
    obtain ⟨hc, hpiece⟩ := not_or.1 (mt List.mem_cons.2 h)
    rw [List.cons_append, pieces, if_neg (Ne.symm hc), ih hpiece]

theorem Text.pieces_of_not_mem {α : Type} [DecidableEq α] {sep : α} {piece : List α}
    (h : sep ∉ piece) : pieces sep piece = [piece] := by
  induction piece with
  | nil => rfl
  | cons c piece ih =>
    obtain ⟨hc, hpiece⟩ := not_or.1 (mt List.mem_cons.2 h)
    rw [pieces, if_neg (Ne.symm hc), ih hpiece]

theorem Text.joined_cons_cons {α : Type} (sep first second : List α) (more : List (List α)) :
    joined sep (first :: second :: more) = first ++ (sep ++ joined sep (second :: more)) :=
  List.append_assoc ..

/-- Cutting pieces that were joined gives them back. -/
theorem Text.pieces_joined {α : Type} [DecidableEq α] {sep : α} {given : List (List α)}
    (hne : given ≠ []) (h : ∀ piece ∈ given, sep ∉ piece) :
    pieces sep (joined [sep] given) = given := by
  induction given with
  | nil => exact absurd rfl hne
  | cons piece others ih =>
    obtain ⟨hpiece, hothers⟩ := List.forall_mem_cons.1 h
    cases others with
    | nil => exact pieces_of_not_mem hpiece
    | cons second more =>
      rw [joined_cons_cons, List.singleton_append, pieces_append hpiece,
        ih (List.cons_ne_nil second more) hothers]

/-- Every piece stands somewhere in the whole. -/
theorem Text.infix_joined {α : Type} {sep piece : List α} {pieces : List (List α)}
    (h : piece ∈ pieces) : piece <:+: joined sep pieces := by
  induction pieces with
  | nil => cases h
  | cons first others ih =>
    cases others with
    | nil =>
      obtain rfl := List.mem_singleton.1 h
      exact List.infix_refl piece
    | cons second more =>
      rw [joined_cons_cons]
      rcases List.mem_cons.1 h with rfl | h
      · exact (List.prefix_append ..).isInfix
      · exact (ih h).trans ((List.suffix_append ..).trans (List.suffix_append ..)).isInfix

/-- Nothing stands in the whole that is in no piece and not in the separator. -/
theorem Text.mem_joined {α : Type} {sep : List α} {pieces : List (List α)} {c : α}
    (h : c ∈ joined sep pieces) : c ∈ sep ∨ ∃ piece ∈ pieces, c ∈ piece := by
  induction pieces with
  | nil => cases h
  | cons first others ih =>
    cases others with
    | nil => exact Or.inr ⟨first, List.mem_cons_self, h⟩
    | cons second more =>
      rw [joined_cons_cons] at h
      rcases List.mem_append.1 h with h | h
      · exact Or.inr ⟨first, List.mem_cons_self, h⟩
      · rcases List.mem_append.1 h with h | h
        · exact Or.inl h
        · rcases ih h with h | ⟨piece, hpiece, h⟩
          · exact Or.inl h
          · exact Or.inr ⟨piece, List.mem_cons_of_mem _ hpiece, h⟩

namespace Path

theorem not_mem_slash_of_mem_parts {text part : String} (h : part ∈ parts text) :
    '/' ∉ part.toList := by
  obtain ⟨piece, hpiece, rfl⟩ := List.mem_map.1 h
  rw [String.toList_ofList]
  exact Text.not_mem_of_mem_pieces hpiece

/-- Going on by one part of a text keeps a path of names one. -/
theorem isName_of_mem_step {kept : Path} {part : String} (hkept : ∀ name ∈ kept, Edit.isName name)
    (hpart : '/' ∉ part.toList) : ∀ name ∈ step kept part, Edit.isName name := by
  intro name hname
  rw [step] at hname
  split_ifs at hname with hdrop hup
  · exact hkept name hname
  · exact hkept name ((List.dropLast_sublist kept).subset hname)
  · rcases List.mem_append.1 hname with hname | hname
    · exact hkept name hname
    · rw [List.mem_singleton.1 hname]
      rw [not_or] at hdrop
      simp [Edit.isName, hdrop, hup, hpart]

theorem isName_of_mem_foldl_step {base : Path} (hbase : ∀ name ∈ base, Edit.isName name)
    {parts : List String} (hparts : ∀ part ∈ parts, '/' ∉ part.toList) :
    ∀ name ∈ parts.foldl step base, Edit.isName name := by
  induction parts generalizing base with
  | nil => exact hbase
  | cons part parts ih =>
    exact ih (isName_of_mem_step hbase (hparts part List.mem_cons_self))
      fun other hother => hparts other (List.mem_cons_of_mem _ hother)

/-- Going on by a text keeps a path of names one. -/
theorem isName_of_mem_extend {base : Path} (hbase : ∀ name ∈ base, Edit.isName name)
    (text : String) : ∀ name ∈ extend base text, Edit.isName name :=
  isName_of_mem_foldl_step hbase fun _ hpart => not_mem_slash_of_mem_parts hpart

theorem isName_of_mem_readFrom {base : Path} (hbase : ∀ name ∈ base, Edit.isName name)
    (text : String) : ∀ name ∈ readFrom base text, Edit.isName name := by
  unfold readFrom
  refine isName_of_mem_extend (fun name hname => ?_) text
  split_ifs at hname
  · exact absurd hname List.not_mem_nil
  · exact hbase name hname

/-- Every component of a path that was read from a text can be the name of a child. -/
theorem isName_of_mem_read (cwd : String) (text : Option String) :
    ∀ name ∈ read cwd text, Edit.isName name :=
  isName_of_mem_readFrom
    (isName_of_mem_extend (fun _ h => absurd h List.not_mem_nil) cwd) (text.getD "")

/-- The components of a path that was read are from the working directory or parts of the text. -/
theorem mem_foldl_step {base : Path} {parts : List String} {name : String}
    (h : name ∈ parts.foldl step base) : name ∈ base ∨ name ∈ parts := by
  induction parts generalizing base with
  | nil => exact Or.inl h
  | cons part parts ih =>
    rcases ih h with hstep | hname
    · rw [step] at hstep
      split_ifs at hstep
      · exact Or.inl hstep
      · exact Or.inl (List.dropLast_subset base hstep)
      · rcases List.mem_append.1 hstep with hname | hname
        · exact Or.inl hname
        · exact Or.inr (List.mem_cons.2 (Or.inl (List.mem_singleton.1 hname)))
    · exact Or.inr (List.mem_cons_of_mem _ hname)

/-- A character that is in no name of the working directory and not in the text is in no name of the
path that the text means. -/
theorem not_mem_of_mem_readFrom {base : Path} {text : String} {c : Char}
    (hbase : ∀ name ∈ base, c ∉ name.toList) (htext : c ∉ text.toList) :
    ∀ name ∈ readFrom base text, c ∉ name.toList := by
  intro name hname hmem
  rcases mem_foldl_step hname with hname | hname
  · split_ifs at hname
    · cases hname
    · exact hbase name hname hmem
  · obtain ⟨piece, hpiece, rfl⟩ := List.mem_map.1 hname
    rw [String.toList_ofList] at hmem
    have hwithin := @Text.infix_joined Char ['/'] _ _ hpiece
    rw [Text.joined_pieces] at hwithin
    exact htext (hwithin.subset hmem)

/-! ### Reading the text of a path -/

/-- What makes a text the name of a child. -/
theorem isName_iff {name : String} :
    Edit.isName name ↔ name ≠ "" ∧ name ≠ "." ∧ name ≠ ".." ∧ '/' ∉ name.toList := by
  simp only [Edit.isName, Bool.and_eq_true, bne_iff_ne, Bool.not_eq_true', ne_eq,
    List.contains_eq_mem, decide_eq_false_iff_not]
  exact ⟨fun ⟨⟨⟨hempty, hslash⟩, hdot⟩, hup⟩ => ⟨hempty, hdot, hup, hslash⟩,
    fun ⟨hempty, hdot, hup, hslash⟩ => ⟨⟨⟨hempty, hslash⟩, hdot⟩, hup⟩⟩

/-- Names are components as they are. -/
theorem foldl_step_of_isName {names : List String} (h : ∀ name ∈ names, Edit.isName name)
    (base : Path) : names.foldl step base = base ++ names := by
  induction names generalizing base with
  | nil => rw [List.foldl_nil, List.append_nil]
  | cons name names ih =>
    obtain ⟨hname, hnames⟩ := List.forall_mem_cons.1 h
    obtain ⟨hempty, hdot, hup, -⟩ := isName_iff.1 hname
    have hstep : step base name = base ++ [name] := by
      rw [step, if_neg (not_or.2 ⟨hempty, hdot⟩), if_neg hup]
    rw [List.foldl_cons, hstep, ih hnames, List.append_assoc, List.singleton_append]

theorem toList_render (path : Path) :
    path.render.toList = '/' :: Text.joined ['/'] (path.map String.toList) := by
  rw [render, String.toList_append, Text.toList_joinWith]
  rfl

/-- A character other than the slash that is in no name of a path is not in its text. -/
theorem not_mem_render {path : Path} {c : Char} (hslash : c ≠ '/')
    (h : ∀ name ∈ path, c ∉ name.toList) : c ∉ path.render.toList := by
  rw [toList_render, List.mem_cons]
  rintro (rfl | hmem)
  · exact hslash rfl
  · rcases Text.mem_joined hmem with hsep | ⟨piece, hpiece, hmem⟩
    · exact hslash (List.mem_singleton.1 hsep)
    · obtain ⟨name, hname, rfl⟩ := List.mem_map.1 hpiece
      exact h name hname hmem

/-- The text of a path has its components behind an empty part. -/
theorem extend_render {path : Path} (h : ∀ name ∈ path, Edit.isName name) :
    extend [] path.render = path := by
  have hstart : step [] (String.ofList []) = [] := by simp [step]
  rw [extend, parts, toList_render, Text.pieces, if_pos rfl, List.map_cons, List.foldl_cons, hstart]
  cases path with
  | nil => simp [Text.joined, Text.pieces, step]
  | cons first rest =>
    have hpieces : ∀ piece ∈ (first :: rest).map String.toList, '/' ∉ piece := by
      intro piece hpiece
      obtain ⟨name, hname, rfl⟩ := List.mem_map.1 hpiece
      exact (isName_iff.1 (h name hname)).2.2.2
    rw [Text.pieces_joined (by simp) hpieces, List.map_map]
    simp [foldl_step_of_isName h]

/-- **Reading the text of a path gives the path back**, from any path. -/
theorem readFrom_render {path : Path} (h : ∀ name ∈ path, Edit.isName name) (base : Path) :
    readFrom base path.render = path := by
  have habsolute : isAbsolute path.render = true := by
    rw [isAbsolute, toList_render]
    rfl
  rw [readFrom, if_pos habsolute, extend_render h]

/-- So it is from any working directory. -/
theorem read_render {path : Path} (h : ∀ name ∈ path, Edit.isName name) (cwd : String) :
    read cwd (some path.render) = path := readFrom_render h _

/-- Paths that are written in the same way are the same. -/
theorem eq_of_render_eq {path other : Path} (hpath : ∀ name ∈ path, Edit.isName name)
    (hother : ∀ name ∈ other, Edit.isName name) (h : path.render = other.render) :
    path = other := by
  rw [← read_render hpath "", h, read_render hother]

/-- A single slash is the text of the root. -/
theorem read_slash (cwd : String) : read cwd (some "/") = [] := by
  have hroot : ∀ name ∈ ([] : Path), Edit.isName name := fun _ h => absurd h List.not_mem_nil
  exact read_render hroot cwd

end Path
end Shellbox
