import Shellbox.Proofs.Atomicity
import Shellbox.Proofs.Growth
import Shellbox.Proofs.Removal
/-!
# When a node was made and when it was changed

An operation other than a move stamps the nodes that it changes and no others
(`FileTree.Restamped`). A directory is changed when its listing is, a file when it is written or
touched; what is below a changed directory is not. For the operations that only add this comes from
how nodes age (`FileTree.Grows.restamped`), for a removal from the one listing that loses a name
(`FileTree.WellNamed.restamped_erase`).

A move stamps the two directories concerned and the node that it moves, although neither its listing
nor its text changes. What is below that node goes with it as it is (`Edit.Transfer.Fits.moved`).

A stamp is never taken back. So no node was changed before it was made, and none later than the last
request (`FileTree.Timely.afterRequests`). With this, a request that comes later than all others has
a time that no node bears yet, and the nodes that bear it afterwards are those which the request
changed (`FileTree.stamps_law`).
-/

namespace Shellbox

/-! ### The stamps in a tree -/

namespace FileTree

/-- The stamps of the node at a path, if there is one. -/
def stamps? (tree : FileTree) (path : Path) : Option Stamps := (tree.at? path).map Node.stamps

/-- A step that leads from one tree to another changes the node at a path: a directory that has
another listing afterwards, or a file that the step writes or touches. -/
def Changed (before : FileTree) (written : List Path) (after : FileTree) (path : Path) : Prop :=
  before.content? path = some .dir ∧ after.listed? path ≠ before.listed? path ∨
    (∃ text, before.content? path = some (.file text)) ∧ path ∈ written

/-- What the stamps become in a step at a time that writes or touches some files. -/
structure Restamped (before : FileTree) (now : Nat) (written : List Path) (after : FileTree) :
    Prop where
  /-- A node that is still there is stamped if it was changed, and is left alone if it was not. -/
  kept : ∀ path old new, before.stamps? path = some old → after.stamps? path = some new →
    before.Changed written after path ∧ new = old.touched now ∨
      ¬before.Changed written after path ∧ new = old
  /-- A node that is new has both stamps from now. -/
  made : ∀ path new, before.stamps? path = none → after.stamps? path = some new → new = .fresh now

/-- How the stamps tell what happened in a step at a time that writes or touches some files. -/
structure Stamped (before : FileTree) (now : Nat) (written : List Path) (after : FileTree) :
    Prop where
  /-- A node that is still there was made when it was made. -/
  created : ∀ path old new, before.stamps? path = some old → after.stamps? path = some new →
    new.created = old.created
  /-- It is marked as modified now exactly if it was changed. -/
  modified : ∀ path old new, before.stamps? path = some old → after.stamps? path = some new →
    (new.modified = now ↔ before.Changed written after path)
  /-- Otherwise it was modified when it was modified. -/
  unchanged : ∀ path old new, before.stamps? path = some old → after.stamps? path = some new →
    ¬before.Changed written after path → new.modified = old.modified
  /-- A node that is new has both stamps from now. -/
  made : ∀ path new, before.stamps? path = none → after.stamps? path = some new → new = .fresh now

/-- What the stamps become when the node at `source` is moved to `place`. -/
structure Moved (before : FileTree) (now : Nat) (source place : Path) (after : FileTree) :
    Prop where
  /-- The directory that the node leaves and the one that it enters are stamped. -/
  parents : ∀ path, path = source.dropLast ∨ path = place.dropLast →
    ∃ old, before.stamps? path = some old ∧ after.stamps? path = some (old.touched now)
  /-- The node is stamped as well. -/
  moved : ∃ old, before.stamps? source = some old ∧ after.stamps? place = some (old.touched now)
  /-- What is below the node keeps its stamps under its new path. -/
  below : ∀ rest, rest ≠ [] → after.stamps? (place ++ rest) = before.stamps? (source ++ rest)
  /-- Nothing is left where the node was. -/
  gone : ∀ path, source <+: path → after.stamps? path = none
  /-- All other nodes keep their stamps. -/
  kept : ∀ path, ¬source <+: path → ¬place <+: path → path ≠ source.dropLast →
    path ≠ place.dropLast → after.stamps? path = before.stamps? path

variable {before after tree : FileTree} {now start : Nat} {written : List Path}
  {path other parent : Path} {name : String} {node : Node} {change : Entries → Entries}

theorem stamps?_of_at? (h : tree.at? path = some node) : tree.stamps? path = some node.stamps :=
  congrArg (Option.map Node.stamps) h

theorem stamps?_eq_none_iff : tree.stamps? path = none ↔ tree.content? path = none := by
  rw [stamps?, content?, Option.map_eq_none_iff, Option.map_eq_none_iff]

theorem exists_stamps?_iff :
    (∃ stamps, tree.stamps? path = some stamps) ↔ tree.content? path ≠ none := by
  rw [Ne, ← stamps?_eq_none_iff, ← Ne, Option.ne_none_iff_exists']

/-! ### Where a list of children changes -/

/-- A directory with other children is stamped. -/
theorem stamps?_relisted (hdir : tree.content? path = some .dir) :
    (tree.amend path (.relisted now change)).stamps? path =
      (tree.stamps? path).map (Stamps.touched now) := by
  obtain ⟨inside, hinside⟩ := directory_ok_iff_content?.2 hdir
  obtain ⟨stamps, hat⟩ := directory_eq_ok_iff.1 hinside
  have happend := at?_amend_append (Node.isDir_relisted now change) tree path []
  rw [List.append_nil, hat] at happend
  rw [stamps?_of_at? hat, stamps?_of_at? happend]
  rfl

/-- When only the child of one name is concerned, all other stamps stay but those at and below that
child. -/
theorem stamps?_relisted_elsewhere
    (hothers : ∀ entries other, other ≠ name → (change entries).find? other = entries.find? other)
    (hbelow : ¬path ++ [name] <+: other) (hne : other ≠ path) (tree : FileTree) :
    (tree.amend path (.relisted now change)).stamps? other = tree.stamps? other :=
  map_at?_relisted (fun _ _ _ _ => rfl) hothers hbelow hne tree

theorem stamps?_push_elsewhere (hbelow : ¬path ++ [name] <+: other) (hne : other ≠ path)
    (node : Node) (tree : FileTree) :
    (tree.amend path (.relisted now (·.push name node))).stamps? other = tree.stamps? other :=
  stamps?_relisted_elsewhere (fun entries _ h => Entries.find?_push_of_ne h node entries) hbelow hne
    tree

theorem stamps?_erase_elsewhere (hbelow : ¬path ++ [name] <+: other) (hne : other ≠ path)
    (tree : FileTree) :
    (tree.amend path (.relisted now (·.erase name))).stamps? other = tree.stamps? other :=
  stamps?_relisted_elsewhere (fun entries _ h => Entries.find?_erase_of_ne h entries) hbelow hne
    tree

/-! ### Additions and removals -/

theorem changed_file_iff {text : String} (h : before.content? path = some (.file text)) :
    before.Changed written after path ↔ path ∈ written := by
  simp [Changed, h]

theorem changed_dir_iff (h : before.content? path = some .dir) :
    before.Changed written after path ↔ after.listed? path ≠ before.listed? path := by
  simp [Changed, h]

/-- A step that only adds stamps what it changes. -/
theorem Grows.restamped (h : before.Grows now written after) :
    before.Restamped now written after where
  kept path old new hold hnew := by
    obtain ⟨node, hnode, rfl⟩ := Option.map_eq_some_iff.1 hold
    obtain ⟨aged, haged, hages⟩ := h.kept path node hnode
    obtain rfl : aged.stamps = new := Option.some.inj ((stamps?_of_at? haged).symm.trans hnew)
    have hcontent := content?_of_at? hnode
    have hlisted : before.listed? path = node.listed? := by rw [listed?_eq, hnode]; rfl
    have hlisted' : after.listed? path = aged.listed? := by rw [listed?_eq, haged]; rfl
    cases hages with
    | file hnot => exact Or.inr ⟨mt (changed_file_iff hcontent).1 hnot, rfl⟩
    | written text hwritten => exact Or.inl ⟨(changed_file_iff hcontent).2 hwritten, rfl⟩
    | dir hnames =>
      refine Or.inr ⟨mt (changed_dir_iff hcontent).1 (not_not.2 ?_), rfl⟩
      rw [hlisted, hlisted']
      exact congrArg some hnames
    | relisted added hadded hnames =>
      refine Or.inl ⟨(changed_dir_iff hcontent).2 fun heq => hadded ?_, rfl⟩
      rw [hlisted, hlisted'] at heq
      exact List.append_right_eq_self.1 (hnames.symm.trans (Option.some.inj heq))
  made path new hnone hnew := by
    obtain ⟨node, hnode, rfl⟩ := Option.map_eq_some_iff.1 hnew
    exact h.made path node (Option.map_eq_none_iff.1 hnone) hnode

/-- Taking a child out stamps its directory. -/
theorem WellNamed.restamped_erase (hwell : before.WellNamed)
    (hthere : before.content? (parent ++ [name]) ≠ none) :
    before.Restamped now [] (before.amend parent (.relisted now (·.erase name))) := by
  have hdir : before.content? parent = some .dir :=
    content?_of_append (List.cons_ne_nil name []) hthere
  constructor
  · intro path old new hold hnew
    have hbelow : ¬parent ++ [name] <+: path := fun hbelow => by
      have hgone := hwell.content?_erase now parent name path
      rw [if_pos hbelow, ← stamps?_eq_none_iff, hnew] at hgone
      cases hgone
    by_cases hpath : path = parent
    · subst hpath
      rw [stamps?_relisted hdir, hold] at hnew
      refine Or.inl ⟨(changed_dir_iff hdir).2 ?_, (Option.some.inj hnew).symm⟩
      obtain ⟨names, hnames⟩ := exists_listed?_iff.2 hdir
      have hmem : name ∈ names := (mem_listed_iff hnames).2 hthere
      have hpos : 0 < names.length := List.length_pos_of_mem hmem
      have hlength : (names.erase name).length = names.length - 1 := List.length_erase_of_mem hmem
      rw [listed?_erase, hnames]
      intro heq
      have hsame : names.erase name = names := Option.some.inj heq
      rw [hsame] at hlength
      omega
    · rw [stamps?_erase_elsewhere hbelow hpath, hold] at hnew
      refine Or.inr ⟨?_, (Option.some.inj hnew).symm⟩
      rintro (⟨-, hlisted⟩ | ⟨-, hmem⟩)
      · exact hlisted (listed?_erase_elsewhere hbelow hpath now before)
      · cases hmem
  · intro path new hnone hnew
    rw [stamps?_eq_none_iff] at hnone
    have hgone := hwell.content?_erase now parent name path
    rw [hnone, ite_self, ← stamps?_eq_none_iff, hnew] at hgone
    cases hgone

end FileTree

/-! ### Moves -/

namespace Edit

/-- The tree in which the node of a plan was taken out and put in its new place, changed now. -/
def Transfer.carried (plan : Transfer) (now : Nat) (tree : FileTree) : FileTree :=
  (tree.amend plan.sourceParent (.relisted now (·.erase plan.sourceName))).amend plan.parent
    (.relisted now (·.push plan.name (plan.node.touched now)))

namespace Transfer.Fits

variable {plan : Transfer} {tree : FileTree} {source path : Path}

/-- The path of the new place leads to the node, and below it goes on as in the node. -/
theorem at?_carried (h : plan.Fits tree source) (now : Nat) (rest : Path) :
    (plan.carried now tree).at? (plan.place ++ rest) = (plan.node.touched now).at? rest := by
  obtain ⟨hdir, hfree⟩ := outcome_addChild_eq_ok_iff.1 (h.outcome_addChild_removed now now plan.node)
  rw [place, List.append_assoc, List.singleton_append, carried,
    FileTree.at?_push_below now _ hdir hfree]

/-- The directories of the source and of the place are there before. -/
theorem content?_of_parent (h : plan.Fits tree source)
    (hpath : path = plan.sourceParent ∨ path = plan.parent) : tree.content? path = some .dir := by
  rcases hpath with rfl | rfl
  · exact FileTree.content?_of_append (List.cons_ne_nil plan.sourceName [])
      (h.source_eq ▸ h.content?_source)
  · exact h.parent_dir

/-- Both directories are stamped, and if they are one, it is stamped twice. -/
theorem stamps?_carried_of_parent (h : plan.Fits tree source) (now : Nat)
    (hpath : path = plan.sourceParent ∨ path = plan.parent) :
    (plan.carried now tree).stamps? path = (tree.stamps? path).map (Stamps.touched now) := by
  have houtside := h.source_eq ▸ h.parent_outside
  have hbeside : ¬plan.place <+: plan.sourceParent := fun hp =>
    h.place_not_above (hp.trans (h.source_eq ▸ List.prefix_append ..))
  obtain ⟨hdir, -⟩ := outcome_addChild_eq_ok_iff.1 (h.outcome_addChild_removed now now plan.node)
  by_cases hold : path = plan.sourceParent
  · subst hold
    have herase : (tree.amend plan.sourceParent
        (.relisted now (·.erase plan.sourceName))).stamps? plan.sourceParent =
          (tree.stamps? plan.sourceParent).map (Stamps.touched now) :=
      FileTree.stamps?_relisted (h.content?_of_parent (Or.inl rfl))
    by_cases hsame : plan.sourceParent = plan.parent
    · rw [carried, hsame, FileTree.stamps?_relisted (hsame ▸ hdir), ← hsame, herase, Option.map_map]
      rfl
    · rw [carried, FileTree.stamps?_push_elsewhere hbeside hsame, herase]
  · obtain rfl := hpath.resolve_left hold
    rw [carried, FileTree.stamps?_relisted hdir, FileTree.stamps?_erase_elsewhere houtside hold]

/-- At the source and below there is nothing any more, for the place is elsewhere. -/
theorem content?_carried_source (h : plan.Fits tree source) (hwell : tree.WellNamed) (now : Nat)
    (hpath : source <+: path) : (plan.carried now tree).content? path = none := by
  have hplace : ¬plan.place <+: path := fun hp => by
    rcases List.prefix_or_prefix_of_prefix hp hpath with hp | hp
    · exact h.place_not_above hp
    · exact h.place_outside hp
  rw [carried, FileTree.content?_push_elsewhere hplace, hwell.content?_erase,
    if_pos (h.source_eq ▸ hpath)]

/-- A planned move stamps both directories and the node. -/
theorem moved (h : plan.Fits tree source) (hwell : tree.WellNamed) (now : Nat) :
    tree.Moved now source plan.place (plan.carried now tree) := by
  have hsourceParent : source.dropLast = plan.sourceParent := by
    rw [h.source_eq, List.dropLast_concat]
  have hplaceParent : plan.place.dropLast = plan.parent := List.dropLast_concat
  constructor
  · rw [hsourceParent, hplaceParent]
    intro path hpath
    have hthere : tree.content? path ≠ none := by
      rw [h.content?_of_parent hpath]
      exact Option.some_ne_none _
    obtain ⟨old, hold⟩ := FileTree.exists_stamps?_iff.2 hthere
    exact ⟨old, hold, by rw [h.stamps?_carried_of_parent now hpath, hold]; rfl⟩
  · have hplace := h.at?_carried now []
    rw [List.append_nil] at hplace
    refine ⟨plan.node.stamps, FileTree.stamps?_of_at? h.at_source, ?_⟩
    rw [FileTree.stamps?_of_at? hplace]
    cases plan.node <;> rfl
  · intro rest hrest
    obtain ⟨first, rest, rfl⟩ := List.exists_cons_of_ne_nil hrest
    have hsource : tree.at? (source ++ first :: rest) = plan.node.at? (first :: rest) := by
      rw [FileTree.at?_eq_root, Node.at?_append, ← FileTree.at?_eq_root, h.at_source,
        Option.bind_some]
    rw [FileTree.stamps?, FileTree.stamps?, h.at?_carried, hsource]
    cases plan.node <;> rfl
  · intro path hpath
    exact FileTree.stamps?_eq_none_iff.2 (h.content?_carried_source hwell now hpath)
  · intro path hsource hplace hne hne'
    rw [carried, FileTree.stamps?_push_elsewhere hplace (hplaceParent ▸ hne'),
      FileTree.stamps?_erase_elsewhere (h.source_eq ▸ hsource) (hsourceParent ▸ hne)]

end Transfer.Fits

end Edit

/-! ### Operations -/

namespace Operation

variable {now : Nat} {cwd source target : String} {operation : Operation} {tree : FileTree}
  {places : List Path}

/-- The paths of the files that an operation writes or touches. -/
def written (cwd : String) : Operation → List Path
  | touch path => [Path.read cwd path]
  | writeFile path _ _ => [Path.read cwd path]
  | upload files => files.map fun file => Path.read cwd file.1
  | _ => []

/-- An operation that succeeds and is not a move stamps what it changes. -/
theorem restamped (hwell : tree.WellNamed) (hmove : ∀ source target, operation ≠ .move source target)
    (h : (operation.perform now cwd).outcome tree = .ok places) :
    tree.Restamped now (operation.written cwd) ((operation.perform now cwd).after tree) := by
  have hgrows : ∀ {written : List Path} {edit : Edit (List Path)}, edit.GrowsBy now written →
      edit.outcome tree = .ok places → tree.Restamped now written (edit.after tree) :=
    fun hedit hok => (hedit tree places hok).restamped
  have hanswer : ∀ {written : List Path} {edit : Edit Path}, edit.GrowsBy now written →
      Edit.GrowsBy now written (do return [← edit] : Edit (List Path)) := fun {written _} hedit => by
    rw [← List.append_nil written]
    exact hedit.bind fun value => Edit.GrowsBy.pure [value]
  cases operation with
  | create parent name kind => exact hgrows (hanswer Edit.growsBy_create) h
  | mkdir path parents existOk => exact hgrows (hanswer Edit.growsBy_mkdir) h
  | touch path => exact hgrows (hanswer Edit.growsBy_touch) h
  | writeFile path text parents => exact hgrows (hanswer Edit.growsBy_writeFile) h
  | upload files =>
    have hfiles := hgrows (Edit.growsBy_upload _) h
    rwa [List.map_map] at hfiles
  | copy source target => exact hgrows (hanswer Edit.growsBy_copy) h
  | move source target => exact absurd rfl (hmove source target)
  | remove path recursive =>
    simp only [perform, bind_pure_comp, Edit.outcome_map, Edit.after_map] at h ⊢
    cases hremove : (Edit.remove now (Path.read cwd path) recursive).outcome tree with
    | error fault => rw [hremove] at h; cases h
    | ok _ =>
      obtain ⟨hne, hthere, -⟩ := Edit.outcome_remove_eq_ok_iff.1 hremove
      obtain ⟨parent, name, hplace⟩ := (List.eq_nil_or_concat' _).resolve_left hne
      rw [hplace] at hremove hthere ⊢
      rw [Edit.after_remove_of_ok hremove]
      exact hwell.restamped_erase hthere

/-- A move that succeeds stamps both directories and the node. -/
theorem moved (hwell : tree.WellNamed)
    (h : ((move source target).perform now cwd).outcome tree = .ok places) :
    ∃ place, places = [place] ∧ tree.Moved now (Path.read cwd source) place
      (((move source target).perform now cwd).after tree) := by
  simp only [perform, bind_pure_comp, Edit.outcome_map, Edit.after_map, Edit.outcome_move] at h ⊢
  cases hplan : Edit.planTransfer (Path.read cwd source) (Path.read cwd target) tree with
  | error fault => rw [hplan] at h; cases h
  | ok plan =>
    rw [hplan] at h
    refine ⟨plan.place, (Except.ok.inj h).symm, ?_⟩
    rw [Edit.after_move hplan]
    exact (Edit.fits_of_planTransfer hplan).moved hwell now

end Operation

/-! ### All stamps of a tree -/

namespace FileTree

variable {before after tree : FileTree} {now start : Nat} {written : List Path} {source place : Path}

/-- No node was changed before it was made, and none later than now. -/
def Timely (now : Nat) (tree : FileTree) : Prop :=
  ∀ path stamps, tree.stamps? path = some stamps →
    stamps.created ≤ stamps.modified ∧ stamps.modified ≤ now

theorem timely_empty : empty.Timely 0 := by
  intro path stamps h
  cases path with
  | nil => cases h; exact ⟨Nat.le_refl 0, Nat.le_refl 0⟩
  | cons name rest => cases h

theorem Timely.mono (h : tree.Timely start) (hle : start ≤ now) : tree.Timely now :=
  fun path stamps hstamps =>
    ⟨(h path stamps hstamps).1, Nat.le_trans (h path stamps hstamps).2 hle⟩

/-- Stamps that are in order are in order when the node is changed now. -/
theorem Timely.touched {path : Path} {old : Stamps} (h : tree.Timely now)
    (hold : tree.stamps? path = some old) :
    (old.touched now).created ≤ (old.touched now).modified ∧ (old.touched now).modified ≤ now :=
  ⟨Nat.le_trans (h path old hold).1 (h path old hold).2, Nat.le_refl now⟩

theorem Restamped.timely (h : before.Restamped now written after) (hbefore : before.Timely now) :
    after.Timely now := by
  intro path new hnew
  cases hold : before.stamps? path with
  | none =>
    rw [h.made path new hold hnew]
    exact ⟨Nat.le_refl now, Nat.le_refl now⟩
  | some old =>
    rcases h.kept path old new hold hnew with ⟨-, rfl⟩ | ⟨-, rfl⟩
    · exact hbefore.touched hold
    · exact hbefore path new hold

theorem Moved.timely (h : before.Moved now source place after) (hbefore : before.Timely now) :
    after.Timely now := by
  intro path new hnew
  by_cases hplace : place <+: path
  · obtain ⟨rest, rfl⟩ := hplace
    rcases eq_or_ne rest [] with rfl | hrest
    · obtain ⟨old, hold, hmoved⟩ := h.moved
      rw [List.append_nil, hmoved] at hnew
      exact Option.some.inj hnew ▸ hbefore.touched hold
    · rw [h.below rest hrest] at hnew
      exact hbefore _ new hnew
  · by_cases hsource : source <+: path
    · rw [h.gone path hsource] at hnew
      cases hnew
    · by_cases hparent : path = source.dropLast ∨ path = place.dropLast
      · obtain ⟨old, hold, hstamped⟩ := h.parents path hparent
        rw [hstamped] at hnew
        exact Option.some.inj hnew ▸ hbefore.touched hold
      · obtain ⟨hne, hne'⟩ := not_or.1 hparent
        rw [h.kept path hsource hplace hne hne'] at hnew
        exact hbefore path new hnew

/-- Where all stamps are older, the stamps from now show what was changed. -/
theorem Restamped.stamped (h : before.Restamped now written after) (hbefore : before.Timely start)
    (hlater : start < now) : before.Stamped now written after where
  created path old new hold hnew := by
    rcases h.kept path old new hold hnew with ⟨-, rfl⟩ | ⟨-, rfl⟩ <;> rfl
  modified path old new hold hnew := by
    rcases h.kept path old new hold hnew with ⟨hchanged, rfl⟩ | ⟨hsame, rfl⟩
    · exact ⟨fun _ => hchanged, fun _ => rfl⟩
    · have holder : new.modified ≤ start := (hbefore path new hold).2
      have hne : new.modified ≠ now := by omega
      exact ⟨fun heq => absurd heq hne, fun hchanged => absurd hchanged hsame⟩
  unchanged path old new hold hnew hsame := by
    rcases h.kept path old new hold hnew with ⟨hchanged, -⟩ | ⟨-, rfl⟩
    · exact absurd hchanged hsame
    · rfl
  made := h.made

end FileTree

namespace Edit

variable {α : Type} {now : Nat} {written : List Path}

/-- An edit that only adds keeps the stamps of a tree in order, if nothing is added when it fails. -/
theorem GrowsBy.preserves_timely {edit : Edit α} (h : edit.GrowsBy now written)
    (hatomic : edit.Atomic) : edit.Preserves (FileTree.Timely now) :=
  Preserves.of_atomic hatomic fun tree value hok htimely =>
    ((h tree value hok).restamped).timely htimely

/-- An upload that fails may leave files behind, but their stamps are in order. -/
theorem preserves_timely_upload (files : List (Path × String)) :
    (upload now files).Preserves (FileTree.Timely now) := by
  rw [upload_eq]
  refine Preserves.bind (Preserves.quiet fun _ => after_checkAll) fun _ => ?_
  induction files with
  | nil => exact Preserves.pure _
  | cons file files ih =>
    refine Preserves.bind (growsBy_writeFile.preserves_timely Atomic.writeFile) fun _ => ?_
    exact Preserves.bind ih fun _ => Preserves.pure _

end Edit

namespace FileTree

variable {tree : FileTree} {start : Nat} {request : Request} {requests : List Request}

/-- A request keeps the stamps of a tree in order, whether it fails or not. -/
theorem Timely.afterRequest (h : tree.Timely start) (hwell : tree.WellNamed)
    (hclock : start ≤ request.now) : (tree.afterRequest request).Timely request.now := by
  obtain ⟨now, cwd, operation⟩ := request
  have hnow : tree.Timely now := h.mono hclock
  rw [FileTree.afterRequest]
  dsimp only
  cases hsingle : operation.isSingle with
  | false =>
    cases operation with
    | upload files => exact Edit.preserves_timely_upload _ tree hnow
    | _ => cases hsingle
  | true =>
    cases houtcome : (operation.perform now cwd).outcome tree with
    | error fault =>
      rw [operation.atomic_perform now cwd hsingle tree fault houtcome]
      exact hnow
    | ok places =>
      by_cases hmove : ∃ source target, operation = .move source target
      · obtain ⟨source, target, rfl⟩ := hmove
        obtain ⟨place, -, hmoved⟩ := Operation.moved hwell houtcome
        exact hmoved.timely hnow
      · have hother : ∀ source target, operation ≠ .move source target :=
          fun source target heq => hmove ⟨source, target, heq⟩
        exact (Operation.restamped hwell hother houtcome).timely hnow

/-- Requests whose times do not go back keep the stamps of a tree in order. -/
theorem Timely.afterRequests (h : tree.Timely start) (hwell : tree.WellNamed)
    (hclock : (start :: requests.map Request.now).Pairwise (· ≤ ·)) :
    ∃ last ∈ start :: requests.map Request.now, (tree.afterRequests requests).Timely last := by
  induction requests generalizing tree start with
  | nil => exact ⟨start, List.mem_cons_self, h⟩
  | cons request requests ih =>
    obtain ⟨hstart, hrest⟩ := List.pairwise_cons.1 hclock
    have hnext : (tree.afterRequest request).Timely request.now :=
      h.afterRequest hwell (hstart request.now List.mem_cons_self)
    have hnextWell : (tree.afterRequest request).WellNamed := hwell.afterRequests [request]
    obtain ⟨last, hlast, htimely⟩ := ih hnext hnextWell hrest
    exact ⟨last, List.mem_cons_of_mem start hlast, htimely⟩

/-- **The law of the stamps.** In a tree that requests have made whose times do not go back, let a
request that comes later than all of them succeed. If it is not a move, every node that is still there
keeps its time of making, and it is marked as modified now exactly if it is a directory whose listing
has changed or a file that was written or touched; new nodes have both stamps from now. If it is a move,
the two directories and the moved node are marked as modified now, and all else keeps its stamps, what
is below the moved node included. So in every such tree no node was modified before it was made. -/
theorem stamps_law (requests : List Request)
    (hclock : (requests.map Request.now).Pairwise (· ≤ ·)) :
    let tree := empty.afterRequests requests
    (∀ request : Request, (∀ time ∈ 0 :: requests.map Request.now, time < request.now) →
      ∀ places, (request.operation.perform request.now request.cwd).outcome tree = .ok places →
        ((∀ source target, request.operation ≠ .move source target) →
          tree.Stamped request.now (request.operation.written request.cwd)
            (tree.afterRequest request)) ∧
        (∀ source target, request.operation = .move source target → ∃ place, places = [place] ∧
          tree.Moved request.now (Path.read request.cwd source) place
            (tree.afterRequest request))) ∧
      ∀ path stamps, tree.stamps? path = some stamps → stamps.created ≤ stamps.modified := by
  intro tree
  have hempty : empty.WellNamed := trivial
  have hwell : tree.WellNamed := hempty.afterRequests requests
  have hfromZero : (0 :: requests.map Request.now).Pairwise (· ≤ ·) :=
    List.pairwise_cons.2 ⟨fun time _ => Nat.zero_le time, hclock⟩
  obtain ⟨last, hlast, htimely⟩ := timely_empty.afterRequests hempty hfromZero
  refine ⟨?_, fun path stamps h => (htimely path stamps h).1⟩
  intro request hlater places hok
  constructor
  · intro hmove
    exact (Operation.restamped hwell hmove hok).stamped htimely (hlater last hlast)
  · intro source target hmove
    obtain ⟨now, cwd, operation⟩ := request
    obtain rfl : operation = .move source target := hmove
    exact Operation.moved hwell hok

/-- A directory with a file in it is moved into a neighbour: the file keeps its stamps, and the root,
the neighbour and the directory itself are marked. Had the file been written instead, only the file
would be marked. -/
theorem file_keeps_stamps_when_directory_moves :
    let requests : List Request :=
      [⟨1, "/", .mkdir "a" false false⟩, ⟨2, "/", .writeFile "a/f" "x" false⟩,
        ⟨3, "/", .mkdir "b" false false⟩]
    let tree := empty.afterRequests requests
    let after := tree.afterRequest ⟨4, "/", .move "a" "b"⟩
    after.stamps? ["b", "a", "f"] = some ⟨2, 2⟩ ∧ after.stamps? ["b", "a"] = some ⟨1, 4⟩ ∧
      after.stamps? ["b"] = some ⟨3, 4⟩ ∧ after.stamps? [] = some ⟨0, 4⟩ ∧
      tree.Stamped 4 [["a", "f"]] (tree.afterRequest ⟨4, "/", .writeFile "a/f" "y" false⟩) := by
  intro requests tree after
  obtain ⟨hstep, -⟩ := stamps_law requests (by decide)
  have hwrite : ((Operation.writeFile "a/f" "y" false).perform 4 "/").outcome tree =
      .ok [["a", "f"]] := by decide +kernel
  obtain ⟨hstamped, -⟩ := hstep ⟨4, "/", .writeFile "a/f" "y" false⟩ (by decide) _ hwrite
  have hok : ((Operation.move "a" "b").perform 4 "/").outcome tree = .ok [["b", "a"]] := by
    decide +kernel
  obtain ⟨-, hmoves⟩ := hstep ⟨4, "/", .move "a" "b"⟩ (by decide) [["b", "a"]] hok
  obtain ⟨place, hplace, hmoved⟩ := hmoves "a" "b" rfl
  obtain rfl : ["b", "a"] = place := List.singleton_inj.1 hplace
  have hsource : Path.read "/" (some "a") = ["a"] := by decide +kernel
  rw [hsource] at hmoved
  obtain ⟨dirStamps, hdir, hdirAfter⟩ := hmoved.moved
  obtain ⟨neighbour, hneighbour, hneighbourAfter⟩ := hmoved.parents ["b"] (Or.inr rfl)
  obtain ⟨top, htop, htopAfter⟩ := hmoved.parents [] (Or.inl rfl)
  have hfile : tree.stamps? ["a", "f"] = some ⟨2, 2⟩ := by decide +kernel
  have hdirBefore : tree.stamps? ["a"] = some ⟨1, 2⟩ := by decide +kernel
  have hneighbourBefore : tree.stamps? ["b"] = some ⟨3, 3⟩ := by decide +kernel
  have htopBefore : tree.stamps? [] = some ⟨0, 3⟩ := by decide +kernel
  rw [hdirBefore] at hdir
  rw [hneighbourBefore] at hneighbour
  rw [htopBefore] at htop
  cases hdir
  cases hneighbour
  cases htop
  have hfileAfter := (hmoved.below ["f"] (List.cons_ne_nil "f" [])).trans hfile
  have hwritten : (Operation.writeFile "a/f" "y" false).written "/" = [["a", "f"]] := by
    decide +kernel
  have hrewrite := hstamped fun _ _ heq => by cases heq
  exact ⟨hfileAfter, hdirAfter, hneighbourAfter, htopAfter, hwritten ▸ hrewrite⟩

end FileTree
end Shellbox
