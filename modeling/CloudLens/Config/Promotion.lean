import CloudLens.Config.Snapshots

/-! What carrying a bundle from one environment to the next promises: the comparison
sees every difference of the masters and no other, an import that does not succeed as
asked leaves the target alone, and one that does makes the target equal to its source. -/
namespace CloudLens.Config
open Library

def SameMasters (a b : Masters) : Prop :=
  ∀ name, (a.get name).map (fun master => JsonText.sortKeys master.value) = (b.get name).map (fun master => JsonText.sortKeys master.value)

def Modification.swapped (m : Modification) : Modification := ⟨m.recordsAfter,m.recordsBefore,-m.delta⟩

structure Swapped (one other : Difference) : Prop where
  added : other.addedMasters = one.removedMasters
  removed : other.removedMasters = one.addedMasters
  modified : other.modifiedMasters = one.modifiedMasters.map (fun entry => (entry.1, entry.2.swapped))

section Comparison

variable {a b : Masters} {name : String}

theorem mem_allKeys : name ∈ allKeys a b ↔ (∃ master, a.get name = some master) ∨ ∃ master, b.get name = some master := by
  unfold allKeys Text.sortedNames
  rw [Finset.mem_sort,Finset.mem_union,List.mem_toFinset,List.mem_toFinset,Dict.mem_keys_iff,Dict.mem_keys_iff]

theorem allKeys_comm (a b : Masters) : allKeys b a = allKeys a b := by
  unfold allKeys
  rw [Finset.union_comm]

theorem modification_eq_none_iff {before after : Master} :
    modification before after = none ↔ JsonText.sortKeys before.value = JsonText.sortKeys after.value := by
  rw [← JsonText.dumpsValue_inj before.proper after.proper]
  unfold modification
  split
  · rename_i same
    exact iff_of_true rfl same
  · rename_i other
    exact iff_of_false (Option.some_ne_none _) other

theorem modification_swap (before after : Master) :
    modification after before = (modification before after).map Modification.swapped := by
  unfold modification
  by_cases same : JsonText.dumpsValue before.value = JsonText.dumpsValue after.value
  · rw [if_pos same,if_pos same.symm,Option.map_none]
  · rw [if_neg same,if_neg (fun other => same other.symm),Option.map_some]
    simp [Modification.swapped]

theorem addedMasters_eq_nil_iff : addedMasters a b = [] ↔ ∀ name, b.get name ≠ none → a.get name ≠ none := by
  unfold addedMasters
  rw [List.filter_eq_nil_iff]
  constructor
  · intro none name held missing
    obtain ⟨master,found⟩ := Option.ne_none_iff_exists'.mp held
    exact none name (mem_allKeys.mpr (Or.inr ⟨master,found⟩)) (by rw [missing]; rfl)
  · intro covered name member missing
    rw [Option.isNone_iff_eq_none] at missing
    obtain ⟨master,found⟩ | ⟨master,found⟩ := mem_allKeys.mp member
    · rw [missing] at found
      cases found
    · exact covered name (by rw [found]; exact Option.some_ne_none master) missing

theorem addedMasters_swap (a b : Masters) : addedMasters b a = removedMasters a b := by
  unfold addedMasters removedMasters
  rw [allKeys_comm]
  apply List.filter_congr
  intro name member
  cases first : a.get name with
  | some master => simp
  | none =>
    obtain ⟨master,found⟩ | ⟨master,found⟩ := mem_allKeys.mp member
    · rw [first] at found
      cases found
    · rw [found]
      rfl

theorem modifiedMasters_eq_nil_iff : modifiedMasters a b = [] ↔ ∀ name before after, a.get name = some before →
    b.get name = some after → JsonText.sortKeys before.value = JsonText.sortKeys after.value := by
  unfold modifiedMasters
  rw [List.filterMap_eq_nil_iff]
  constructor
  · intro none name before after first second
    have unmodified := none name (mem_allKeys.mpr (Or.inl ⟨before,first⟩))
    rw [first,second] at unmodified
    exact modification_eq_none_iff.mp (Option.map_eq_none_iff.mp unmodified)
  · intro alike name _
    split
    · rename_i before after first second
      rw [modification_eq_none_iff.mpr (alike name before after first second),Option.map_none]
    · rfl

theorem modifiedMasters_swap (a b : Masters) :
    modifiedMasters b a = (modifiedMasters a b).map (fun entry => (entry.1, entry.2.swapped)) := by
  unfold modifiedMasters
  rw [allKeys_comm,List.map_filterMap]
  apply List.filterMap_congr
  intro name _
  cases a.get name with
  | none => cases b.get name <;> rfl
  | some before =>
    cases b.get name with
    | none => rfl
    | some after =>
      dsimp only
      rw [modification_swap before after,Option.map_map,Option.map_map]
      rfl

theorem sameMasters_iff : SameMasters a b ↔ addedMasters a b = [] ∧ removedMasters a b = [] ∧ modifiedMasters a b = [] := by
  rw [← addedMasters_swap,addedMasters_eq_nil_iff,addedMasters_eq_nil_iff,modifiedMasters_eq_nil_iff]
  constructor
  · intro same
    refine ⟨?_,?_,?_⟩
    · intro name held missing
      have here := same name
      rw [missing,Option.map_none] at here
      exact held (Option.map_eq_none_iff.mp here.symm)
    · intro name held missing
      have here := same name
      rw [missing,Option.map_none] at here
      exact held (Option.map_eq_none_iff.mp here)
    · intro name before after first second
      have here := same name
      rw [first,second] at here
      exact Option.some.inj here
  · rintro ⟨added,removed,modified⟩ name
    cases first : a.get name with
    | none =>
      have missing : b.get name = none := by_contra fun held => added name held first
      rw [missing]
    | some before =>
      cases second : b.get name with
      | none => exact absurd second (removed name (by rw [first]; exact Option.some_ne_none before))
      | some after => exact congrArg some (modified name before after first second)

theorem hasDifferences_iff (a b : Snapshot) : (diffSnapshots a b).hasDifferences = false ↔ SameMasters a.masters b.masters := by
  rw [sameMasters_iff]
  unfold diffSnapshots
  dsimp only
  rw [decide_eq_false_iff_not,Nat.not_lt,Nat.le_zero,Nat.add_eq_zero_iff,Nat.add_eq_zero_iff,List.length_eq_zero_iff,
    List.length_eq_zero_iff,List.length_eq_zero_iff,and_assoc]

theorem diffSnapshots_swap (a b : Snapshot) : Swapped (diffSnapshots a b) (diffSnapshots b a) :=
  ⟨addedMasters_swap a.masters b.masters,(addedMasters_swap b.masters a.masters).symm,modifiedMasters_swap a.masters b.masters⟩

end Comparison

section Exports

variable {files : SeedFiles} {name : String} {master : Master}

theorem readableMasters_distinct (files : SeedFiles) : ((readableMasters files).map Prod.fst).Nodup := by
  have keys : ((seedFilesInOrder files).map (fun file => file.1.stem)).Nodup := by
    have sorted : (seedFilesInOrder files).Perm files.entries := List.perm_insertionSort _ _
    have distinct : (files.entries.map (fun file => file.1)).Nodup := files.nodupKeys
    have stems := distinct.map (f := FileName.stem) (by
      rintro ⟨stem,plain⟩ ⟨other,free⟩ same
      dsimp only at same
      subst same
      rfl)
    rw [List.map_map] at stems
    exact (sorted.map _).nodup_iff.mpr stems
  refine keys.sublist ?_
  unfold readableMasters
  rw [List.map_filterMap]
  generalize seedFilesInOrder files = entries
  induction entries with
  | nil => exact List.Sublist.slnil
  | cons entry rest ih =>
    cases held : entry.2 with
    | none =>
      rw [List.filterMap_cons_none (by simp [held]),List.map_cons]
      exact ih.cons _
    | some data =>
      rw [List.filterMap_cons_some (b := entry.1.stem) (by simp [held]),List.map_cons]
      exact ih.cons_cons _

theorem get_exportSnapshot (schemaVersion environment versionLabel : String) :
    (exportSnapshot schemaVersion files environment versionLabel).masters.get name = some master ↔
      ∃ file : FileName, file.stem = name ∧ files.lookup file = some (some master) := by
  unfold exportSnapshot
  dsimp only
  rw [Dict.get_eq_some_iff,Dict.items_ofPairs (readableMasters_distinct files)]
  unfold readableMasters seedFilesInOrder
  rw [List.mem_filterMap]
  constructor
  · rintro ⟨entry,member,shown⟩
    obtain ⟨data,held,same⟩ := Option.map_eq_some_iff.mp shown
    rw [Prod.mk.injEq] at same
    obtain ⟨rfl,rfl⟩ := same
    refine ⟨entry.1,rfl,Table.lookup_eq_some_iff.mpr ?_⟩
    rw [← held]
    exact (List.mem_insertionSort _).mp member
  · rintro ⟨file,rfl,found⟩
    exact ⟨⟨file,some master⟩,(List.mem_insertionSort _).mpr (Table.lookup_eq_some_iff.mp found),rfl⟩

end Exports

def lastWrite (r : Resolver) (writes : List (String × Option Master)) (file : FileName) : Option (Option Master) :=
  (writes.reverse.find? (fun write => r.directly write.1 = some file)).map Prod.snd

section Writes

variable {r : Resolver} {disk : Disk} {writes : List (String × Option Master)} {file : FileName}

theorem writeAll_concat (r : Resolver) (disk : Disk) (writes : List (String × Option Master)) (write : String × Option Master) :
    disk.writeAll r (writes ++ [write]) = (disk.writeAll r writes).write r write.1 write.2 := by
  unfold Disk.writeAll
  rw [List.foldl_append]
  rfl

theorem lookup_write (name : String) (content : Option Master) :
    (disk.write r name content).target.lookup file =
      if r.directly name = some file then some content else disk.target.lookup file := by
  unfold Disk.write
  cases placed : r.directly name with
  | none => rfl
  | some written =>
    dsimp only
    rw [Table.lookup_overwrite]
    by_cases same : file = written
    · rw [if_pos same,if_pos (congrArg some same.symm)]
    · rw [if_neg same,if_neg (fun other => same (Option.some.inj other).symm)]

theorem lookup_writeAll : (disk.writeAll r writes).target.lookup file = (lastWrite r writes file).or (disk.target.lookup file) := by
  induction writes using List.reverseRecOn with
  | nil => rfl
  | append_singleton writes write ih =>
    rw [writeAll_concat,lookup_write,ih]
    unfold lastWrite
    rw [List.reverse_append,List.reverse_singleton,List.singleton_append]
    by_cases here : r.directly write.1 = some file
    · rw [if_pos here,List.find?_cons_of_pos (by simpa using here)]
      rfl
    · rw [if_neg here,List.find?_cons_of_neg (by simpa using here)]

theorem elsewhere_writeAll : (disk.writeAll r writes).elsewhere = [] ↔
    disk.elsewhere = [] ∧ ∀ write ∈ writes, (r.directly write.1).isSome := by
  induction writes using List.reverseRecOn with
  | nil => exact ⟨fun none => ⟨none,fun _ member => nomatch member⟩,And.left⟩
  | append_singleton writes write ih =>
    rw [writeAll_concat,List.forall_mem_append,← and_assoc,← ih,List.forall_mem_singleton]
    unfold Disk.write
    split
    · rename_i placed
      rw [placed]
      exact (and_iff_left rfl).symm
    · rename_i placed
      rw [placed]
      exact iff_of_false (List.cons_ne_nil _ _) (fun both => nomatch both.2)

theorem attempted_whole {fault : Option Fault} {items : List (String × Master)}
    (none : fault.bind (fun f => (items.map Prod.fst)[f.index]?) = none) :
    attempted fault items = items.map (fun item => (item.1, some item.2)) := by
  induction items generalizing fault with
  | nil => cases fault <;> rfl
  | cons item rest ih =>
    cases fault with
    | none => exact congrArg _ (@ih Option.none rfl)
    | some fault =>
      obtain ⟨index,torn⟩ := fault
      cases index with
      | zero => cases none
      | succ index => exact congrArg _ (@ih (some ⟨index,torn⟩) (by simpa using none))

end Writes

def Unchanged (target after : SeedFiles) : Prop := ∀ file, after.lookup file = target.lookup file

/-- Masters were changed after the export, and the seal is the old one or gone. -/
def Tampered (bundle snapshot : Snapshot) : Prop :=
  ¬SameMasters snapshot.masters bundle.masters ∧ (snapshot.bundleSha256 = bundle.bundleSha256 ∨ snapshot.bundleSha256 = none)

section Promotion

variable (r : Resolver) (bundle snapshot : Snapshot) (dryRun : Bool) (fault : Option Fault) (target : SeedFiles)

/-- What the import of a bundle promises: a dry run, a tampered bundle and a failure leave the
target as it was, nothing is written elsewhere, and an exported bundle that is imported makes a
new export of the target differ in nothing. -/
structure Promotes : Prop where
  dry : dryRun = true → Unchanged target (importSnapshot r snapshot dryRun fault ⟨target,[]⟩).1.target
  tampered : Tampered bundle snapshot → Unchanged target (importSnapshot r snapshot dryRun fault ⟨target,[]⟩).1.target
  failed : ∀ failure, (importSnapshot r snapshot dryRun fault ⟨target,[]⟩).2 = .error failure →
    Unchanged target (importSnapshot r snapshot dryRun fault ⟨target,[]⟩).1.target
  within : (importSnapshot r snapshot dryRun fault ⟨target,[]⟩).1.elsewhere = []
  equal : snapshot = bundle → dryRun = false → ∀ report, (importSnapshot r snapshot dryRun fault ⟨target,[]⟩).2 = .ok report →
    ∀ schemaVersion environment versionLabel, (diffSnapshots bundle (exportSnapshot schemaVersion
      (importSnapshot r snapshot dryRun fault ⟨target,[]⟩).1.target environment versionLabel)).hasDifferences = false

/-- The import comes to its writes: it is no dry run, the bundle is not empty, and its seal is
that of its masters or missing. -/
def Accepted : Prop := dryRun = false ∧ snapshot.masters.items ≠ [] ∧ sealRefused snapshot = none

/-- The masters written go to files of the target; of a tampered bundle, or before a write that
fails, nothing is written that is not there already; and the target has no readable master of
its own that an exported bundle lacks. -/
structure Safe : Prop where
  inside : ∀ write ∈ attempted fault snapshot.masters.items, (r.directly write.1).isSome
  idle : Tampered bundle snapshot ∨ failedWrite fault snapshot.masters ≠ none → ∀ file content,
    lastWrite r (attempted fault snapshot.masters.items) file = some content → target.lookup file = some content
  covered : snapshot = bundle → failedWrite fault snapshot.masters = none → ∀ file master,
    target.lookup file = some (some master) → file.stem ∈ bundle.masters.keys

variable {r bundle snapshot dryRun fault target}

theorem importSnapshot_refused (refused : ¬Accepted snapshot dryRun) :
    (importSnapshot r snapshot dryRun fault ⟨target,[]⟩).1 = ⟨target,[]⟩ ∧
      ∀ report, (importSnapshot r snapshot dryRun fault ⟨target,[]⟩).2 = .ok report → dryRun = true := by
  unfold importSnapshot
  dsimp only
  split
  · exact ⟨rfl,nofun⟩
  · rename_i some
    split
    · exact ⟨rfl,nofun⟩
    · rename_i sealed
      split
      · rename_i dry
        exact ⟨rfl,fun _ _ => dry⟩
      · rename_i wet
        exact absurd ⟨Bool.not_eq_true _ ▸ wet,some,sealed⟩ refused

theorem importSnapshot_accepted (accepted : Accepted snapshot dryRun) (disk : Disk) :
    (importSnapshot r snapshot dryRun fault disk).1 = disk.writeAll r (attempted fault snapshot.masters.items) ∧
      ((∃ failure, (importSnapshot r snapshot dryRun fault disk).2 = .error failure) ↔ failedWrite fault snapshot.masters ≠ none) := by
  obtain ⟨wet,some,sealed⟩ := accepted
  unfold importSnapshot
  dsimp only
  rw [if_neg some,sealed,wet]
  dsimp only
  rw [if_neg (by decide)]
  split
  · rename_i name hit
    exact ⟨rfl,iff_of_true ⟨_,rfl⟩ (by rw [hit]; exact Option.some_ne_none name)⟩
  · rename_i missed
    exact ⟨rfl,iff_of_false (fun failed => nomatch failed.choose_spec) (fun some => some missed)⟩

theorem unchanged_iff_idle {writes : List (String × Option Master)} :
    Unchanged target ((Disk.mk target []).writeAll r writes).target ↔
      ∀ file content, lastWrite r writes file = some content → target.lookup file = some content := by
  unfold Unchanged
  apply forall_congr'
  intro file
  rw [lookup_writeAll]
  cases lastWrite r writes file with
  | none => exact iff_of_true rfl nofun
  | some content =>
    rw [Option.some_or]
    constructor
    · intro same other written
      rw [← written]
      exact same.symm
    · intro idle
      exact (idle content rfl).symm

theorem lastWrite_exported {masters : Masters} (named : ∀ name ∈ masters.keys, ∃ file : FileName, file.stem = name) (file : FileName) :
    lastWrite r (masters.items.map (fun item => (item.1, some item.2))) file = (masters.get file.stem).map some := by
  have own : ∀ item ∈ masters.items, r.directly item.1 = some file ↔ item.1 = file.stem := by
    intro item member
    obtain ⟨written,stem⟩ := named item.1 (List.mem_map_of_mem member)
    rw [← stem,r.plain written,Option.some.injEq]
    constructor
    · intro same
      rw [same]
    · intro same
      obtain ⟨first,plain⟩ := written
      obtain ⟨second,free⟩ := file
      dsimp only at same
      subst same
      rfl
  ext content
  unfold lastWrite
  constructor
  · intro found
    obtain ⟨write,last,rfl⟩ := Option.map_eq_some_iff.mp found
    have member := List.mem_reverse.mp (List.mem_of_find?_eq_some last)
    have placed := List.find?_some last
    obtain ⟨item,inside,rfl⟩ := List.mem_map.mp member
    have stem := (own item inside).mp (by simpa using placed)
    have held : masters.get file.stem = some item.2 := Dict.get_eq_some_iff.mpr (stem ▸ inside)
    rw [held]
    rfl
  · intro found
    obtain ⟨master,held,rfl⟩ := Option.map_eq_some_iff.mp found
    have inside := Dict.get_eq_some_iff.mp held
    cases last : (masters.items.map (fun item => (item.1, some item.2))).reverse.find? (fun write => r.directly write.1 = some file) with
    | none =>
      rw [List.find?_eq_none] at last
      have missed := last (file.stem, some master) (List.mem_reverse.mpr (List.mem_map_of_mem inside))
      exact absurd (r.plain file) (by simpa using missed)
    | some write =>
      have member := List.mem_reverse.mp (List.mem_of_find?_eq_some last)
      have placed := List.find?_some last
      obtain ⟨item,there,rfl⟩ := List.mem_map.mp member
      have stem := (own item there).mp (by simpa using placed)
      have again : masters.get file.stem = some item.2 := Dict.get_eq_some_iff.mpr (stem ▸ there)
      rw [held] at again
      rw [Option.map_some,Option.some.inj again]

end Promotion

section Result

variable {schemaVersion environment versionLabel : String} {source : SeedFiles}

theorem exported_named {name : String} (member : name ∈ (exportSnapshot schemaVersion source environment versionLabel).masters.keys) :
    ∃ file : FileName, file.stem = name := by
  obtain ⟨master,held⟩ := Dict.mem_keys_iff.mp member
  obtain ⟨file,stem,_⟩ := (get_exportSnapshot schemaVersion environment versionLabel).mp held
  exact ⟨file,stem⟩

/-- After an export was written whole, the target's own export is equal to it exactly when the
target had no readable master that is not among those written. -/
theorem equal_iff_covered {r : Resolver} {target : SeedFiles} (label other third : String) :
    let bundle := exportSnapshot schemaVersion source environment versionLabel
    let after := (Disk.mk target []).writeAll r (bundle.masters.items.map (fun item => (item.1, some item.2)))
    SameMasters bundle.masters (exportSnapshot label after.target other third).masters ↔
      ∀ file master, target.lookup file = some (some master) → file.stem ∈ bundle.masters.keys := by
  intro bundle after
  have held : ∀ file, after.target.lookup file = ((bundle.masters.get file.stem).map some).or (target.lookup file) := by
    intro file
    rw [lookup_writeAll,lastWrite_exported (fun name member => exported_named member)]
  constructor
  · intro same file master own
    by_contra missing
    have none : bundle.masters.get file.stem = none := by
      rw [Option.eq_none_iff_forall_ne_some]
      intro written found
      exact missing (Dict.mem_keys_iff.mpr ⟨written,found⟩)
    have kept : (exportSnapshot label after.target other third).masters.get file.stem = some master :=
      (get_exportSnapshot label other third).mpr ⟨file,rfl,by rw [held,none,own]; rfl⟩
    have here := same file.stem
    rw [none,kept] at here
    cases here
  · intro covered name
    cases found : bundle.masters.get name with
    | some master =>
      obtain ⟨file,rfl,_⟩ := (get_exportSnapshot schemaVersion environment versionLabel).mp found
      have copied : (exportSnapshot label after.target other third).masters.get file.stem = some master :=
        (get_exportSnapshot label other third).mpr ⟨file,rfl,by rw [held,found]; rfl⟩
      rw [copied]
    | none =>
      cases copied : (exportSnapshot label after.target other third).masters.get name with
      | none => rfl
      | some master =>
        obtain ⟨file,rfl,there⟩ := (get_exportSnapshot label other third).mp copied
        rw [held,found] at there
        obtain ⟨written,again⟩ := Dict.mem_keys_iff.mp (covered file master there)
        rw [found] at again
        cases again

theorem promotes_iff (r : Resolver) (snapshot : Snapshot) (dryRun : Bool) (fault : Option Fault) (target : SeedFiles) :
    let bundle := exportSnapshot schemaVersion source environment versionLabel
    Promotes r bundle snapshot dryRun fault target ↔ (Accepted snapshot dryRun → Safe r bundle snapshot fault target) := by
  intro bundle
  by_cases accepted : Accepted snapshot dryRun
  · obtain ⟨written,failing⟩ := @importSnapshot_accepted r _ _ fault accepted ⟨target,[]⟩
    have inside := @elsewhere_writeAll r ⟨target,[]⟩ (attempted fault snapshot.masters.items)
    have idle := @unchanged_iff_idle r target (attempted fault snapshot.masters.items)
    rw [forall_prop_of_true accepted]
    constructor
    · rintro ⟨_,tampered,failed,within,equal⟩
      rw [written] at tampered failed within equal
      refine ⟨(inside.mp within).2,?_,?_⟩
      · intro suspicious
        refine idle.mp (suspicious.elim tampered fun hit => ?_)
        obtain ⟨failure,raised⟩ := failing.mpr hit
        exact failed failure raised
      · intro same whole
        have done : ∃ report, (importSnapshot r snapshot dryRun fault ⟨target,[]⟩).2 = .ok report := by
          cases outcome : (importSnapshot r snapshot dryRun fault ⟨target,[]⟩).2 with
          | error failure => exact absurd whole (failing.mp ⟨failure,outcome⟩)
          | ok report => exact ⟨report,rfl⟩
        obtain ⟨report,ok⟩ := done
        have alike := (hasDifferences_iff _ _).mp (equal same accepted.1 report ok "" "" "")
        rw [attempted_whole whole,same] at alike
        exact (equal_iff_covered "" "" "").mp alike
    · rintro ⟨placed,still,covered⟩
      refine ⟨?_,?_,?_,?_,?_⟩
      · intro dry
        rw [accepted.1] at dry
        cases dry
      · intro suspicious
        rw [written]
        exact idle.mpr (still (Or.inl suspicious))
      · intro failure raised
        rw [written]
        exact idle.mpr (still (Or.inr (failing.mp ⟨failure,raised⟩)))
      · rw [written]
        exact inside.mpr ⟨rfl,placed⟩
      · intro same _ report ok label other third
        have whole : failedWrite fault snapshot.masters = none := by
          by_contra hit
          obtain ⟨failure,raised⟩ := failing.mpr hit
          rw [ok] at raised
          cases raised
        rw [written,attempted_whole whole,hasDifferences_iff,same]
        exact (equal_iff_covered label other third).mpr (covered same whole)
  · obtain ⟨untouched,ends⟩ := @importSnapshot_refused r _ _ fault target accepted
    refine iff_of_true ?_ (fun holds => absurd holds accepted)
    have same : Unchanged target (importSnapshot r snapshot dryRun fault ⟨target,[]⟩).1.target := by
      rw [untouched]
      exact fun _ => rfl
    refine ⟨fun _ => same,fun _ => same,fun _ _ => same,by rw [untouched],?_⟩
    intro _ wet report ok
    rw [ends report ok] at wet
    cases wet

/-- The comparison is exact and turns round with its arguments, whatever the bundles; an import
keeps its promises exactly when it is not accepted or is safe. -/
theorem configuration_promotion_iff (a b : Snapshot) (schemaVersion environment versionLabel : String) (source : SeedFiles)
    (r : Resolver) (snapshot : Snapshot) (dryRun : Bool) (fault : Option Fault) (target : SeedFiles) :
    (((diffSnapshots a b).hasDifferences = false ↔ SameMasters a.masters b.masters) ∧
      Swapped (diffSnapshots a b) (diffSnapshots b a)) ∧
    (Promotes r (exportSnapshot schemaVersion source environment versionLabel) snapshot dryRun fault target ↔
      (Accepted snapshot dryRun → Safe r (exportSnapshot schemaVersion source environment versionLabel) snapshot fault target)) :=
  ⟨⟨hasDifferences_iff a b,diffSnapshots_swap a b⟩,promotes_iff r snapshot dryRun fault target⟩

end Result

section Unsealed

def stems : Resolver where
  directly := fun name => if plain : '/' ∉ name.toList then some ⟨name,plain⟩ else none
  plain := fun file => dif_pos file.plain

def yes : Master := ⟨.bool true,trivial⟩

def no : Master := ⟨.bool false,trivial⟩

def flags : FileName := ⟨"flags",by decide⟩

/-- The bundle of `flags`, changed after its export and with its seal taken off. -/
def unsealed : Snapshot := ⟨"1.0.0","1.0.0","DEV",none,1,Dict.empty.assign "flags" yes⟩

def flagFiles (master : Master) : SeedFiles := (∅ : SeedFiles).insert flags (some master)

theorem unsealed_bundle_imported :
    ¬Promotes stems (exportSnapshot "1.0.0" (flagFiles no) "DEV" "1.0.0") unsealed false none (flagFiles no) := by
  intro promotes
  have changed : Tampered (exportSnapshot "1.0.0" (flagFiles no) "DEV" "1.0.0") unsealed := by
    refine ⟨?_,Or.inr rfl⟩
    intro same
    have exported : (exportSnapshot "1.0.0" (flagFiles no) "DEV" "1.0.0").masters.get "flags" = some no :=
      (get_exportSnapshot "1.0.0" "DEV" "1.0.0").mpr ⟨flags,rfl,rfl⟩
    have here := same "flags"
    rw [exported] at here
    cases here
  have kept := promotes.tampered changed flags
  have accepted : Accepted unsealed false := ⟨rfl,by decide,rfl⟩
  rw [(importSnapshot_accepted accepted ⟨flagFiles no,[]⟩).1] at kept
  cases kept

end Unsealed

end CloudLens.Config
