import Mathlib.Data.List.Nodup
import Mathlib.Data.List.Perm.Subperm
import Mathlib.Logic.Relation

/-! Breadth-first traversal of a labelled graph from one root, with an optional
limit on the depth. The queue hands out entries in the order they were found, so
depths never decrease along the findings, and a traversal that has emptied its
queue has found exactly what the root reaches within the limit. -/
namespace CloudLens.Library.Traversal

structure Entry (α : Type) where
  node : α
  depth : ℕ
  path : List α
  deriving DecidableEq

structure Search (α ε σ : Type) where
  neighbours : α → List (α × ε)
  limit : Option ℕ
  examine : Entry α → α × ε → σ → σ

structure Walk (α ε σ : Type) where
  queue : List (Entry α)
  found : List (Entry α × ε)
  log : σ

variable {α ε σ : Type} [DecidableEq α]

def rootEntry (root : α) : Entry α := ⟨root,0,[root]⟩

def Walk.start (root : α) (log : σ) : Walk α ε σ := ⟨[rootEntry root],[],log⟩

def Walk.nodes (walk : Walk α ε σ) : List α := walk.found.map (fun f => f.1.node)

namespace Search

variable (search : Search α ε σ)

def reaches (depth : ℕ) : Bool := search.limit.all (fun limit => depth < limit)

def child (entry : Entry α) (node : α) : Entry α := ⟨node,entry.depth + 1,entry.path ++ [node]⟩

/-- One neighbour: skipped on the path to it or once found, else found and queued. -/
def look (entry : Entry α) (walk : Walk α ε σ) (neighbour : α × ε) : Walk α ε σ :=
  let log := search.examine entry neighbour walk.log
  if neighbour.1 ∈ entry.path ∨ neighbour.1 ∈ walk.nodes then { walk with log := log }
  else
    { queue := walk.queue ++ [child entry neighbour.1]
      found := walk.found ++ [(child entry neighbour.1, neighbour.2)]
      log := log }

def expand (entry : Entry α) (walk : Walk α ε σ) : Walk α ε σ :=
  if search.reaches entry.depth then (search.neighbours entry.node).foldl (search.look entry) walk else walk

def run : ℕ → Walk α ε σ → Walk α ε σ
  | 0, walk => walk
  | fuel + 1, walk =>
    match walk.queue with
    | [] => walk
    | entry :: rest => run fuel (search.expand entry { walk with queue := rest })

def Step (a b : α) : Prop := ∃ label, (b, label) ∈ search.neighbours a

inductive Steps (root : α) : ℕ → α → Prop where
  | zero : Steps root 0 root
  | succ {n : ℕ} {a b : α} (before : Steps root n a) (step : search.Step a b) : Steps root (n + 1) b

end Search

def Walk.entries (root : α) (walk : Walk α ε σ) : List (Entry α) := rootEntry root :: walk.found.map Prod.fst

omit [DecidableEq α] in
theorem Walk.mem_nodes_iff {walk : Walk α ε σ} {node : α} :
    node ∈ walk.nodes ↔ ∃ f ∈ walk.found, f.1.node = node := List.mem_map

omit [DecidableEq α] in
theorem Walk.entries_nodes (root : α) (walk : Walk α ε σ) :
    (walk.entries root).map Entry.node = root :: walk.nodes := by
  simp [entries,nodes,rootEntry,Function.comp_def]

/-- The entries handed out so far are the first of all entries, depths do not
decrease, and every entry was reached by a walk of its depth. -/
structure Shape (search : Search α ε σ) (root : α) (done : List (Entry α)) (walk : Walk α ε σ) : Prop where
  order : walk.entries root = done ++ walk.queue
  distinct : (root :: walk.nodes).Nodup
  sorted : ((walk.entries root).map Entry.depth).Pairwise (· ≤ ·)
  rooted : ∀ entry ∈ walk.entries root, root ∈ entry.path
  paths : ∀ entry ∈ walk.entries root, ∀ node ∈ entry.path, node ∈ root :: walk.nodes
  labelled : ∀ found ∈ walk.found, ∃ node, (found.1.node, found.2) ∈ search.neighbours node
  walked : ∀ entry ∈ walk.entries root, search.Steps root entry.depth entry.node
  bounded : ∀ entry ∈ walk.entries root, ∀ limit ∈ search.limit, entry.depth ≤ limit

structure Expanding (search : Search α ε σ) (root : α) (done : List (Entry α)) (entry : Entry α) (walk : Walk α ε σ) :
    Prop extends Shape search root done walk where
  member : entry ∈ walk.entries root
  front : ∀ waiting ∈ walk.queue, entry.depth ≤ waiting.depth
  roof : ∀ known ∈ walk.entries root, known.depth ≤ entry.depth + 1

structure Invariant (search : Search α ε σ) (root : α) (done : List (Entry α)) (walk : Walk α ε σ) : Prop
    extends Shape search root done walk where
  spread : ∀ waiting ∈ walk.queue, ∀ known ∈ walk.entries root, known.depth ≤ waiting.depth + 1
  closed : ∀ entry ∈ done, search.reaches entry.depth = true → ∀ neighbour ∈ search.neighbours entry.node,
    ∃ known ∈ walk.entries root, known.node = neighbour.1 ∧ known.depth ≤ entry.depth + 1

section Loop

variable {search : Search α ε σ} {root : α} {done : List (Entry α)} {entry : Entry α} {walk : Walk α ε σ}

omit [DecidableEq α] in
theorem known_of_mem {node : α} (known : node ∈ root :: walk.nodes) : ∃ found ∈ walk.entries root, found.node = node := by
  rw [← Walk.entries_nodes] at known
  exact List.mem_map.mp known

theorem look_of_known (neighbour : α × ε) (known : neighbour.1 ∈ entry.path ∨ neighbour.1 ∈ walk.nodes) :
    search.look entry walk neighbour = { walk with log := search.examine entry neighbour walk.log } := if_pos known

theorem look_of_new (neighbour : α × ε) (new : ¬ (neighbour.1 ∈ entry.path ∨ neighbour.1 ∈ walk.nodes)) :
    search.look entry walk neighbour =
      ⟨walk.queue ++ [Search.child entry neighbour.1],walk.found ++ [(Search.child entry neighbour.1, neighbour.2)],
        search.examine entry neighbour walk.log⟩ := if_neg new

omit [DecidableEq α] in
theorem entries_snoc (queue : List (Entry α)) (found : Entry α × ε) (log : σ) :
    Walk.entries root ⟨queue,walk.found ++ [found],log⟩ = walk.entries root ++ [found.1] := by
  simp [Walk.entries]

omit [DecidableEq α] in
theorem nodes_snoc (queue : List (Entry α)) (found : Entry α × ε) (log : σ) :
    Walk.nodes ⟨queue,walk.found ++ [found],log⟩ = walk.nodes ++ [found.1.node] := by
  simp [Walk.nodes]

omit [DecidableEq α] in
theorem forall_snoc {β : Type} {items : List β} {item : β} {holds : β → Prop} (before : ∀ known ∈ items, holds known)
    (last : holds item) : ∀ known ∈ items ++ [item], holds known := by
  intro known inside
  rcases List.mem_append.mp inside with earlier | final
  · exact before known earlier
  · rw [List.mem_singleton.mp final]
    exact last

omit [DecidableEq α] in
/-- A new child extends the entries by a walk that is one step longer. -/
theorem shape_snoc (state : Expanding search root done entry walk) (reached : search.reaches entry.depth = true)
    {neighbour : α × ε} (adjacent : neighbour ∈ search.neighbours entry.node)
    (fresh : neighbour.1 ∉ root :: walk.nodes) (log : σ) :
    Shape search root done ⟨walk.queue ++ [Search.child entry neighbour.1],
      walk.found ++ [(Search.child entry neighbour.1, neighbour.2)],log⟩ := by
  refine ⟨?_,?_,?_,?_,?_,?_,?_,?_⟩
  · rw [entries_snoc,state.order,List.append_assoc]
  · rw [nodes_snoc,← List.cons_append]
    refine List.nodup_append.mpr ⟨state.distinct,List.nodup_singleton _,?_⟩
    intro known inside last final same
    rw [List.mem_singleton.mp final] at same
    rw [same] at inside
    exact fresh inside
  · rw [entries_snoc,List.map_append,List.pairwise_append]
    refine ⟨state.sorted,List.pairwise_singleton _ _,?_⟩
    intro depth inside last final
    obtain ⟨known,member,rfl⟩ := List.mem_map.mp inside
    rw [List.mem_singleton.mp final]
    exact state.roof known member
  · rw [entries_snoc]
    exact forall_snoc state.rooted (List.mem_append_left _ (state.rooted entry state.member))
  · rw [entries_snoc,nodes_snoc,← List.cons_append]
    apply forall_snoc
    · intro known member node onPath
      exact List.mem_append_left _ (state.paths known member node onPath)
    · exact forall_snoc (fun node onPath => List.mem_append_left _ (state.paths entry state.member node onPath))
        (List.mem_append_right _ (List.mem_singleton.mpr rfl))
  · exact forall_snoc state.labelled ⟨entry.node,adjacent⟩
  · rw [entries_snoc]
    exact forall_snoc state.walked (.succ (state.walked entry state.member) ⟨neighbour.2,adjacent⟩)
  · rw [entries_snoc]
    apply forall_snoc state.bounded
    intro limit given
    have below : entry.depth < limit := by
      unfold Search.reaches at reached
      rw [Option.mem_def.mp given] at reached
      exact of_decide_eq_true reached
    exact below

theorem look_expanding (state : Expanding search root done entry walk) (reached : search.reaches entry.depth = true)
    {neighbour : α × ε} (adjacent : neighbour ∈ search.neighbours entry.node) :
    Expanding search root done entry (search.look entry walk neighbour) ∧
      (∀ known ∈ walk.entries root, known ∈ (search.look entry walk neighbour).entries root) ∧
      neighbour.1 ∈ root :: (search.look entry walk neighbour).nodes := by
  by_cases known : neighbour.1 ∈ entry.path ∨ neighbour.1 ∈ walk.nodes
  · rw [look_of_known neighbour known]
    refine ⟨⟨⟨state.order,state.distinct,state.sorted,state.rooted,state.paths,state.labelled,state.walked,
      state.bounded⟩,
      state.member,state.front,state.roof⟩,fun _ inside => inside,?_⟩
    rcases known with onPath | found
    · exact state.paths entry state.member neighbour.1 onPath
    · exact List.mem_cons_of_mem root found
  · rw [look_of_new neighbour known]
    obtain ⟨offPath,unfound⟩ := not_or.mp known
    have fresh : neighbour.1 ∉ root :: walk.nodes := by
      intro inside
      rcases List.mem_cons.mp inside with same | found
      · rw [same] at offPath
        exact offPath (state.rooted entry state.member)
      · exact unfound found
    refine ⟨⟨?_,?_,?_,?_⟩,?_,?_⟩
    · exact shape_snoc state reached adjacent fresh _
    · rw [entries_snoc]
      exact List.mem_append_left _ state.member
    · intro waiting inside
      rcases List.mem_append.mp inside with before | last
      · exact state.front waiting before
      · rw [List.mem_singleton.mp last]
        exact Nat.le_succ entry.depth
    · rw [entries_snoc]
      exact forall_snoc state.roof (Nat.le_refl _)
    · intro found inside
      rw [entries_snoc]
      exact List.mem_append_left _ inside
    · rw [nodes_snoc]
      exact List.mem_cons_of_mem root (List.mem_append_right _ (List.mem_singleton.mpr rfl))

theorem foldl_expanding {neighbours : List (α × ε)} (adjacent : ∀ neighbour ∈ neighbours, neighbour ∈ search.neighbours entry.node)
    (reached : search.reaches entry.depth = true) (state : Expanding search root done entry walk) :
    Expanding search root done entry (neighbours.foldl (search.look entry) walk) ∧
      (∀ known ∈ walk.entries root, known ∈ (neighbours.foldl (search.look entry) walk).entries root) ∧
      ∀ neighbour ∈ neighbours, neighbour.1 ∈ root :: (neighbours.foldl (search.look entry) walk).nodes := by
  induction neighbours generalizing walk with
  | nil => exact ⟨state,fun _ inside => inside,nofun⟩
  | cons first rest ih =>
    obtain ⟨isFirst,areRest⟩ := List.forall_mem_cons.mp adjacent
    obtain ⟨next,kept,known⟩ := look_expanding state reached isFirst
    obtain ⟨final,keptLater,knownLater⟩ := ih areRest next
    refine ⟨final,fun entry inside => keptLater entry (kept entry inside),?_⟩
    intro neighbour inside
    rcases List.mem_cons.mp inside with rfl | later
    · obtain ⟨found,member,same⟩ := known_of_mem known
      rw [← same,← Walk.entries_nodes]
      exact List.mem_map_of_mem (keptLater found member)
    · exact knownLater neighbour later

omit [DecidableEq α] in
theorem expanding_of_invariant {rest : List (Entry α)} (state : Invariant search root done walk)
    (queued : walk.queue = entry :: rest) :
    Expanding search root (done ++ [entry]) entry { walk with queue := rest } := by
  have order : walk.entries root = (done ++ [entry]) ++ rest := by
    rw [state.order,queued,List.append_assoc]
    rfl
  have member : entry ∈ walk.entries root := by
    rw [order]
    exact List.mem_append_left _ (List.mem_append_right _ (List.mem_singleton.mpr rfl))
  refine ⟨⟨order,state.distinct,state.sorted,state.rooted,state.paths,state.labelled,state.walked,
      state.bounded⟩,member,?_,?_⟩
  · intro waiting inside
    have sorted := state.sorted
    rw [order,List.map_append,List.pairwise_append] at sorted
    exact sorted.2.2 entry.depth (List.mem_map_of_mem (List.mem_append_right _ (List.mem_singleton.mpr rfl)))
      waiting.depth (List.mem_map_of_mem inside)
  · intro known inside
    apply state.spread entry _ known inside
    rw [queued]
    exact List.mem_cons_self

omit [DecidableEq α] in
theorem Expanding.spread (state : Expanding search root done entry walk) :
    ∀ waiting ∈ walk.queue, ∀ known ∈ walk.entries root, known.depth ≤ waiting.depth + 1 := by
  intro waiting inside known member
  exact Nat.le_trans (state.roof known member) (Nat.succ_le_succ (state.front waiting inside))

theorem expand_invariant {rest : List (Entry α)} (state : Invariant search root done walk)
    (queued : walk.queue = entry :: rest) :
    Invariant search root (done ++ [entry]) (search.expand entry { walk with queue := rest }) := by
  have start := expanding_of_invariant state queued
  have earlier : ∀ closing ∈ done, search.reaches closing.depth = true →
      ∀ neighbour ∈ search.neighbours closing.node,
        ∃ known ∈ walk.entries root, known.node = neighbour.1 ∧ known.depth ≤ closing.depth + 1 := state.closed
  unfold Search.expand
  by_cases reached : search.reaches entry.depth = true
  · rw [if_pos reached]
    obtain ⟨final,kept,known⟩ := foldl_expanding (fun _ inside => inside) reached start
    refine ⟨final.toShape,final.spread,?_⟩
    apply forall_snoc
    · intro closing inside reachedIt neighbour adjacent
      obtain ⟨found,member,same⟩ := earlier closing inside reachedIt neighbour adjacent
      exact ⟨found,kept found member,same⟩
    · intro _ neighbour adjacent
      obtain ⟨found,member,same⟩ := known_of_mem (known neighbour adjacent)
      exact ⟨found,member,same,final.roof found member⟩
  · rw [if_neg reached]
    exact ⟨start.toShape,start.spread,forall_snoc earlier (fun reachedIt => absurd reachedIt reached)⟩

omit [DecidableEq α] in
theorem start_invariant (search : Search α ε σ) (root : α) (log : σ) :
    Invariant search root [] (Walk.start root log) := by
  have only : ∀ entry ∈ (Walk.start root log : Walk α ε σ).entries root, entry = rootEntry root :=
    fun entry inside => List.mem_singleton.mp inside
  refine ⟨⟨rfl,List.nodup_singleton root,List.pairwise_singleton _ _,?_,?_,nofun,?_,?_⟩,?_,nofun⟩
  · intro entry inside
    rw [only entry inside]
    exact List.mem_singleton.mpr rfl
  · intro entry inside node onPath
    rw [only entry inside] at onPath
    exact onPath
  · intro entry inside
    rw [only entry inside]
    exact .zero
  · intro entry inside limit _
    rw [only entry inside]
    exact Nat.zero_le limit
  · intro waiting _ known inside
    rw [only known inside]
    exact Nat.zero_le _

theorem run_invariant (fuel : ℕ) (state : Invariant search root done walk) :
    ∃ handed, Invariant search root handed (search.run fuel walk) ∧
      ((search.run fuel walk).queue = [] ∨ handed.length = done.length + fuel) := by
  induction fuel generalizing done walk with
  | zero => exact ⟨done,state,Or.inr rfl⟩
  | succ fuel ih =>
    unfold Search.run
    split
    · rename_i empty
      exact ⟨done,state,Or.inl empty⟩
    · rename_i entry rest queued
      obtain ⟨handed,final,ended⟩ := ih (expand_invariant state queued)
      refine ⟨handed,final,ended.imp_right fun counted => ?_⟩
      rw [counted,List.length_append,List.length_singleton]
      omega

omit [DecidableEq α] in
theorem Search.Steps.last {n : ℕ} {node : α} (walked : search.Steps root n node) :
    node = root ∨ ∃ before, search.Step before node := by
  cases walked with
  | zero => exact Or.inl rfl
  | succ _ step => exact Or.inr ⟨_,step⟩

omit [DecidableEq α] in
theorem Search.Steps.imp {ε' σ' : Type} {other : Search α ε' σ'} (wider : ∀ a b, search.Step a b → other.Step a b) {n : ℕ}
    {node : α} (walked : search.Steps root n node) : other.Steps root n node := by
  induction walked with
  | zero => exact .zero
  | succ _ step ih => exact .succ ih (wider _ _ step)

omit [DecidableEq α] in
theorem Shape.length_le (state : Shape search root done walk) {all : List α}
    (inside : ∀ node, ∀ neighbour ∈ search.neighbours node, neighbour.1 ∈ all) :
    (walk.entries root).length ≤ all.length + 1 := by
  have covered : ∀ node ∈ (walk.entries root).map Entry.node, node ∈ root :: all := by
    intro node member
    obtain ⟨entry,listed,rfl⟩ := List.mem_map.mp member
    rcases (state.walked entry listed).last with same | ⟨before,label,adjacent⟩
    · rw [same]
      exact List.mem_cons_self
    · exact List.mem_cons_of_mem root (inside before _ adjacent)
  have distinct : ((walk.entries root).map Entry.node).Nodup := by
    rw [Walk.entries_nodes]
    exact state.distinct
  have counted := (List.subperm_of_subset distinct covered).length_le
  rwa [List.length_map] at counted

omit [DecidableEq α] in
/-- An emptied queue leaves nothing reachable unknown. -/
theorem Invariant.known_of_steps (state : Invariant search root done walk) (ended : walk.queue = []) {n : ℕ} {node : α}
    (walked : search.Steps root n node) (bounded : ∀ limit ∈ search.limit, n ≤ limit) :
    ∃ known ∈ walk.entries root, known.node = node ∧ known.depth ≤ n := by
  induction walked with
  | zero => exact ⟨rootEntry root,List.mem_cons_self,rfl,Nat.le_refl 0⟩
  | succ before step ih =>
    rename_i n a b
    obtain ⟨known,member,rfl,shallow⟩ := ih (fun limit given => Nat.le_of_succ_le (bounded limit given))
    have handed : known ∈ done := by
      rw [state.order,ended,List.append_nil] at member
      exact member
    have reached : search.reaches known.depth = true := by
      unfold Search.reaches
      cases given : search.limit with
      | none => rfl
      | some limit =>
        have below := bounded limit given
        rw [Option.all_some,decide_eq_true_eq]
        omega
    obtain ⟨label,adjacent⟩ := step
    obtain ⟨next,listed,same,near⟩ := state.closed known handed reached (b, label) adjacent
    refine ⟨next,listed,same,?_⟩
    omega

omit [DecidableEq α] in
/-- An emptied queue has found exactly the other nodes that the root reaches within the limit. -/
theorem Invariant.mem_nodes_iff (state : Invariant search root done walk) (ended : walk.queue = []) (node : α) :
    node ∈ walk.nodes ↔ node ≠ root ∧ ∃ n, (∀ limit ∈ search.limit, n ≤ limit) ∧ search.Steps root n node := by
  constructor
  · intro found
    refine ⟨?_,?_⟩
    · rintro rfl
      exact (List.nodup_cons.mp state.distinct).1 found
    · obtain ⟨known,member,same⟩ := known_of_mem (List.mem_cons_of_mem root found)
      refine ⟨known.depth,state.bounded known member,?_⟩
      rw [← same]
      exact state.walked known member
  · rintro ⟨other,n,bounded,walked⟩
    obtain ⟨known,member,same,_⟩ := state.known_of_steps ended walked bounded
    have listed : node ∈ (walk.entries root).map Entry.node := by
      rw [← same]
      exact List.mem_map_of_mem member
    rw [Walk.entries_nodes] at listed
    exact (List.mem_cons.mp listed).resolve_left other

omit [DecidableEq α] in
theorem steps_iff_reflTransGen (node : α) :
    (∃ n, search.Steps root n node) ↔ Relation.ReflTransGen search.Step root node := by
  constructor
  · rintro ⟨n,walked⟩
    induction walked with
    | zero => exact .refl
    | succ _ step ih => exact ih.tail step
  · intro path
    induction path with
    | refl => exact ⟨0,.zero⟩
    | tail _ step ih =>
      obtain ⟨n,walked⟩ := ih
      exact ⟨n + 1,.succ walked step⟩

end Loop

section Relabelling

variable {ε' : Type} {search : Search α ε σ} {other : Search α ε' σ} {relabel : ε → ε'}

def Walk.map (relabel : ε → ε') (walk : Walk α ε σ) : Walk α ε' σ :=
  ⟨walk.queue,walk.found.map (fun found => (found.1, relabel found.2)),walk.log⟩

/-- The other search has the same neighbours under other labels, and logs the same for them. -/
structure Relabels (relabel : ε → ε') (search : Search α ε σ) (other : Search α ε' σ) : Prop where
  neighbours : ∀ node, other.neighbours node = (search.neighbours node).map (fun next => (next.1, relabel next.2))
  limit : other.limit = search.limit
  examine : ∀ entry next label log, other.examine entry (next, relabel label) log = search.examine entry (next, label) log

omit [DecidableEq α] in
theorem Walk.nodes_map (walk : Walk α ε σ) : (walk.map relabel).nodes = walk.nodes := by
  simp [map,nodes,Function.comp_def]

theorem look_map (same : Relabels relabel search other) (entry : Entry α) (walk : Walk α ε σ) (neighbour : α × ε) :
    other.look entry (walk.map relabel) (neighbour.1, relabel neighbour.2) = (search.look entry walk neighbour).map relabel := by
  unfold Search.look
  dsimp only
  rw [Walk.nodes_map]
  split
  · simp [Walk.map,same.examine]
  · simp [Walk.map,same.examine]

theorem expand_map (same : Relabels relabel search other) (entry : Entry α) (walk : Walk α ε σ) :
    other.expand entry (walk.map relabel) = (search.expand entry walk).map relabel := by
  have reached : other.reaches entry.depth = search.reaches entry.depth := by
    unfold Search.reaches
    rw [same.limit]
  unfold Search.expand
  rw [reached,same.neighbours]
  split
  · generalize search.neighbours entry.node = neighbours
    induction neighbours generalizing walk with
    | nil => rfl
    | cons first rest ih =>
      rw [List.map_cons,List.foldl_cons,List.foldl_cons,look_map same]
      exact ih _
  · rfl

theorem run_map (same : Relabels relabel search other) (fuel : ℕ) (walk : Walk α ε σ) :
    other.run fuel (walk.map relabel) = (search.run fuel walk).map relabel := by
  induction fuel generalizing walk with
  | zero => rfl
  | succ fuel ih =>
    unfold Search.run
    cases queued : walk.queue with
    | nil =>
      have empty : (walk.map relabel).queue = [] := queued
      rw [empty]
    | cons entry rest =>
      have waiting : (walk.map relabel).queue = entry :: rest := queued
      rw [waiting]
      dsimp only
      rw [← ih,← expand_map same]
      rfl

end Relabelling

end CloudLens.Library.Traversal
