import CloudLens.Library.Traversal

/-! Which walk a breadth-first traversal finds a node by. The walks of each
length are enumerated in the order of the neighbours; a traversal that has come
to its end found every node by the first of its shortest walks, and under the
label of the last step of that walk. -/
namespace CloudLens.Library.Traversal

variable {α ε σ : Type} [DecidableEq α]

namespace Search

variable (search : Search α ε σ)

/-- The node is so many steps from the root, and no fewer. -/
def Nearest (root : α) (n : ℕ) (node : α) : Prop := search.Steps root n node ∧ ∀ m, search.Steps root m node → n ≤ m

/-- The walks that are longer by one step, each with the label of the step. -/
def extensions (entry : Entry α) : List (Entry α × ε) :=
  (search.neighbours entry.node).map (fun neighbour => (child entry neighbour.1, neighbour.2))

def offered (entry : Entry α) : List (Entry α × ε) := if search.reaches entry.depth then search.extensions entry else []

/-- The log of an entry whose neighbours are all looked at. -/
def logEntry (log : σ) (entry : Entry α) : σ :=
  if search.reaches entry.depth then
    (search.neighbours entry.node).foldl (fun log neighbour => search.examine entry neighbour log) log
  else log

/-- A walk with the label of its last step. -/
def mark (next : Entry α × ε) : Entry α × Option ε := (next.1, some next.2)

/-- The walks of so many steps, in the order of the neighbours. -/
def trails (root : α) : ℕ → List (Entry α × Option ε)
  | 0 => [(rootEntry root, none)]
  | n + 1 => (trails root n).flatMap (fun trail => (search.extensions trail.1).map mark)

end Search

/-- The first pair of each node that is not known before. -/
def fresh (known : List α) : List (Entry α × ε) → List (Entry α × ε)
  | [] => []
  | next :: rest => if next.1.node ∈ known then fresh known rest else next :: fresh (known ++ [next.1.node]) rest

def Walk.marked (root : α) (walk : Walk α ε σ) : List (Entry α × Option ε) :=
  (rootEntry root, none) :: walk.found.map Search.mark

section Lists

variable {β γ : Type}

theorem findSome?_eq_bind {items : List β} {chosen : β → Bool} {value : β → Option γ}
    (yields : ∀ item ∈ items, chosen item = true → value item ≠ none)
    (led : ∀ before item after, items = before ++ item :: after → value item ≠ none →
      chosen item = true ∨ ∃ earlier ∈ before, chosen earlier = true) :
    items.findSome? value = (items.find? chosen).bind value := by
  induction items with
  | nil => rfl
  | cons first rest ih =>
    cases here : chosen first with
    | true =>
      obtain ⟨result,given⟩ := Option.ne_none_iff_exists'.mp (yields first List.mem_cons_self here)
      rw [List.find?_cons_of_pos here,List.findSome?_cons_of_isSome (by rw [given]; rfl)]
      rfl
    | false =>
      have none : value first = none := by
        by_contra given
        rcases led [] first rest rfl given with chosen | ⟨_,absent,_⟩
        · rw [here] at chosen
          cases chosen
        · cases absent
      rw [List.find?_cons_of_neg (by simp [here]),List.findSome?_cons,none]
      apply ih (fun item member => yields item (List.mem_cons_of_mem first member))
      intro before item after split given
      rcases led (first :: before) item after (by rw [split]; rfl) given with chosen | ⟨earlier,member,chosen⟩
      · exact Or.inl chosen
      · rcases List.mem_cons.mp member with rfl | inside
        · rw [here] at chosen
          cases chosen
        · exact Or.inr ⟨earlier,inside,chosen⟩

theorem find?_of_nodup [DecidableEq γ] {key : β → γ} {items : List β} (distinct : (items.map key).Nodup) {item : β}
    (member : item ∈ items) : items.find? (fun other => key other = key item) = some item := by
  cases found : items.find? (fun other => key other = key item) with
  | none => exact absurd (by simp) (List.find?_eq_none.mp found item member)
  | some other =>
    have same : key other = key item := by simpa using List.find?_some found
    rw [List.inj_on_of_nodup_map distinct (List.mem_of_find?_eq_some found) member same]

end Lists

section Fresh

variable {known : List α} {pairs : List (Entry α × ε)}

theorem fresh_known {next : Entry α × ε} (inside : next.1.node ∈ known) : fresh known (next :: pairs) = fresh known pairs :=
  if_pos inside

theorem fresh_new {next : Entry α × ε} (outside : next.1.node ∉ known) :
    fresh known (next :: pairs) = next :: fresh (known ++ [next.1.node]) pairs := if_neg outside

theorem fresh_append (known : List α) (first second : List (Entry α × ε)) :
    fresh known (first ++ second) = fresh known first ++ fresh (known ++ (fresh known first).map (fun f => f.1.node)) second := by
  induction first generalizing known with
  | nil => simp [fresh]
  | cons next rest ih =>
    rw [List.cons_append]
    by_cases inside : next.1.node ∈ known
    · rw [fresh_known inside,fresh_known inside]
      exact ih known
    · rw [fresh_new inside,fresh_new inside,ih,List.map_cons,List.append_assoc]
      rfl

theorem fresh_subset {next : Entry α × ε} (member : next ∈ fresh known pairs) : next ∈ pairs := by
  induction pairs generalizing known with
  | nil => cases member
  | cons first rest ih =>
    by_cases inside : first.1.node ∈ known
    · rw [fresh_known inside] at member
      exact List.mem_cons_of_mem first (ih member)
    · rw [fresh_new inside] at member
      rcases List.mem_cons.mp member with rfl | later
      · exact List.mem_cons_self
      · exact List.mem_cons_of_mem first (ih later)

theorem find?_fresh {wanted : α → Bool} (unknown : ∀ node ∈ known, wanted node = false) :
    (fresh known pairs).find? (fun next => wanted next.1.node) = pairs.find? (fun next => wanted next.1.node) := by
  induction pairs generalizing known with
  | nil => rfl
  | cons first rest ih =>
    by_cases inside : first.1.node ∈ known
    · rw [fresh_known inside,ih unknown,List.find?_cons,unknown _ inside]
    · rw [fresh_new inside,List.find?_cons,List.find?_cons]
      cases here : wanted first.1.node with
      | true => rfl
      | false =>
        apply ih
        intro node member
        rcases List.mem_append.mp member with earlier | last
        · exact unknown node earlier
        · rw [List.mem_singleton.mp last]
          exact here

end Fresh

section Collecting

variable {search : Search α ε σ} {root : α} {done : List (Entry α)} {entry : Entry α} {walk : Walk α ε σ}

theorem foldl_found (rooted : root ∈ entry.path) (neighbours : List (α × ε))
    (paths : ∀ node ∈ entry.path, node ∈ root :: walk.nodes) :
    (neighbours.foldl (search.look entry) walk).found = walk.found ++
      fresh (root :: walk.nodes) (neighbours.map (fun neighbour => (Search.child entry neighbour.1, neighbour.2))) := by
  induction neighbours generalizing walk with
  | nil => exact (List.append_nil _).symm
  | cons first rest ih =>
    rw [List.foldl_cons,List.map_cons]
    by_cases known : first.1 ∈ entry.path ∨ first.1 ∈ walk.nodes
    · have inside : first.1 ∈ root :: walk.nodes := known.elim (paths first.1) (List.mem_cons_of_mem root)
      rw [look_of_known first known,fresh_known inside]
      exact ih paths
    · obtain ⟨offPath,unfound⟩ := not_or.mp known
      have new : first.1 ∉ root :: walk.nodes := by
        intro inside
        rcases List.mem_cons.mp inside with same | found
        · rw [same] at offPath
          exact offPath rooted
        · exact unfound found
      have grown : ∀ node ∈ entry.path, node ∈ root :: (search.look entry walk first).nodes := by
        intro node onPath
        rw [look_of_new first known,nodes_snoc,← List.cons_append]
        exact List.mem_append_left _ (paths node onPath)
      rw [ih grown,look_of_new first known,fresh_new new,nodes_snoc,List.append_assoc]
      rfl

theorem expand_found (rooted : root ∈ entry.path) (paths : ∀ node ∈ entry.path, node ∈ root :: walk.nodes) :
    (search.expand entry walk).found = walk.found ++ fresh (root :: walk.nodes) (search.offered entry) := by
  unfold Search.expand Search.offered
  split
  · exact foldl_found rooted _ paths
  · exact (List.append_nil _).symm

theorem foldl_log (neighbours : List (α × ε)) : (neighbours.foldl (search.look entry) walk).log =
    neighbours.foldl (fun log neighbour => search.examine entry neighbour log) walk.log := by
  induction neighbours generalizing walk with
  | nil => rfl
  | cons first rest ih =>
    have here : (search.look entry walk first).log = search.examine entry first walk.log := by
      unfold Search.look
      dsimp only
      split <;> rfl
    rw [List.foldl_cons,List.foldl_cons,ih,here]

theorem expand_log : (search.expand entry walk).log = search.logEntry walk.log entry := by
  unfold Search.expand Search.logEntry
  split
  · exact foldl_log _
  · rfl

structure Progress (search : Search α ε σ) (root : α) (log : σ) (done : List (Entry α)) (walk : Walk α ε σ) : Prop
    extends Invariant search root done walk where
  collected : walk.found = fresh [root] (done.flatMap search.offered)
  logged : walk.log = done.foldl search.logEntry log

theorem expand_progress {log : σ} {rest : List (Entry α)} (state : Progress search root log done walk)
    (queued : walk.queue = entry :: rest) :
    Progress search root log (done ++ [entry]) (search.expand entry { walk with queue := rest }) := by
  have member : entry ∈ walk.entries root := by
    rw [state.order,queued]
    exact List.mem_append_right _ List.mem_cons_self
  have nodes : walk.nodes = (fresh [root] (done.flatMap search.offered)).map (fun f => f.1.node) := by
    rw [← state.collected]
    rfl
  have expanded : (search.expand entry { walk with queue := rest }).found =
      walk.found ++ fresh (root :: walk.nodes) (search.offered entry) :=
    expand_found (state.rooted entry member) (state.paths entry member)
  refine ⟨expand_invariant state.toInvariant queued,?_,?_⟩
  · rw [expanded,List.flatMap_append,List.flatMap_singleton,fresh_append,← nodes,← state.collected]
    rfl
  · rw [expand_log,List.foldl_append,← state.logged]
    rfl

theorem run_progress {log : σ} (fuel : ℕ) (state : Progress search root log done walk) :
    ∃ handed, Progress search root log handed (search.run fuel walk) ∧
      ((search.run fuel walk).queue = [] ∨ handed.length = done.length + fuel) := by
  induction fuel generalizing done walk with
  | zero => exact ⟨done,state,Or.inr rfl⟩
  | succ fuel ih =>
    unfold Search.run
    split
    · rename_i empty
      exact ⟨done,state,Or.inl empty⟩
    · rename_i entry rest queued
      obtain ⟨handed,final,ended⟩ := ih (expand_progress state queued)
      refine ⟨handed,final,ended.imp_right fun counted => ?_⟩
      rw [counted,List.length_append,List.length_singleton]
      omega

structure Complete (search : Search α ε σ) (root : α) (log : σ) (walk : Walk α ε σ) : Prop where
  state : Progress search root log (walk.entries root) walk
  ended : walk.queue = []

theorem run_complete (root : α) {all : List α} (inside : ∀ node, ∀ neighbour ∈ search.neighbours node, neighbour.1 ∈ all)
    {fuel : ℕ} (enough : all.length + 1 ≤ fuel) (log : σ) : Complete search root log (search.run fuel (Walk.start root log)) := by
  have start : Progress search root log [] (Walk.start root log) := ⟨start_invariant search root log,rfl,rfl⟩
  obtain ⟨handed,final,ended⟩ := run_progress fuel start
  have bound := final.toShape.length_le inside
  have empty : (search.run fuel (Walk.start root log)).queue = [] := by
    refine ended.elim id fun counted => ?_
    rw [final.order,List.length_append,counted,List.length_nil] at bound
    apply List.eq_nil_of_length_eq_zero
    omega
  have all : handed = (search.run fuel (Walk.start root log)).entries root := by
    rw [final.order,empty,List.append_nil]
  rw [all] at final
  exact ⟨final,empty⟩

end Collecting

section Trails

variable {search : Search α ε σ} {root : α} {log : σ} {walk : Walk α ε σ}

omit [DecidableEq α] in
theorem Search.Nearest.unique {n m : ℕ} {node : α} (near : search.Nearest root n node) (other : search.Nearest root m node) :
    n = m :=
  Nat.le_antisymm (near.2 m other.1) (other.2 n near.1)

omit [DecidableEq α] in
theorem Search.Nearest.eq_root {node : α} (near : search.Nearest root 0 node) : node = root := by
  obtain ⟨walked,_⟩ := near
  cases walked
  rfl

omit [DecidableEq α] in
/-- A step into a node at the next distance starts at this distance. -/
theorem Search.Nearest.before {n m : ℕ} {a b : α} (near : search.Nearest root (n + 1) b) (step : search.Step a b)
    (walked : search.Steps root m a) (short : m ≤ n) : search.Nearest root n a := by
  have bound : ∀ k, search.Steps root k a → n ≤ k := fun k other => Nat.succ_le_succ_iff.mp (near.2 _ (.succ other step))
  have equal : m = n := Nat.le_antisymm short (bound m walked)
  rw [equal] at walked
  exact ⟨walked,bound⟩

omit [DecidableEq α] in
theorem Search.Nearest.pred {n : ℕ} {b : α} (near : search.Nearest root (n + 1) b) :
    ∃ a, search.Nearest root n a ∧ search.Step a b := by
  obtain ⟨walked,_⟩ := id near
  cases walked with
  | succ before step => exact ⟨_,near.before step before (Nat.le_refl n),step⟩

omit [DecidableEq α] in
/-- On the way to a node there is one at every distance before it. -/
theorem Search.Nearest.nearer {n m : ℕ} {node : α} (near : search.Nearest root n node) (least : m ≤ n) :
    ∃ before, search.Nearest root m before := by
  induction n generalizing node with
  | zero =>
    rw [Nat.le_zero.mp least]
    exact ⟨node,near⟩
  | succ n ih =>
    rcases Nat.lt_or_eq_of_le least with less | same
    · obtain ⟨before,close,_⟩ := near.pred
      exact ih close (Nat.le_of_lt_succ less)
    · rw [same]
      exact ⟨node,near⟩

omit [DecidableEq α] in
theorem steps_of_mem_trails {n : ℕ} {trail : Entry α × Option ε} (member : trail ∈ search.trails root n) :
    search.Steps root n trail.1.node := by
  induction n generalizing trail with
  | zero =>
    rw [List.mem_singleton.mp member]
    exact .zero
  | succ n ih =>
    obtain ⟨before,earlier,inside⟩ := List.mem_flatMap.mp member
    obtain ⟨next,extended,rfl⟩ := List.mem_map.mp inside
    obtain ⟨neighbour,adjacent,rfl⟩ := List.mem_map.mp extended
    exact .succ (ih earlier) ⟨neighbour.2,adjacent⟩

omit [DecidableEq α] in
/-- What is on a walk leads to its last node, and the root to what is on it. -/
theorem paths_of_mem_trails {n : ℕ} {trail : Entry α × Option ε} (member : trail ∈ search.trails root n) {node : α}
    (onPath : node ∈ trail.1.path) :
    Relation.ReflTransGen search.Step root node ∧ Relation.ReflTransGen search.Step node trail.1.node := by
  induction n generalizing trail with
  | zero =>
    rw [List.mem_singleton.mp member] at onPath ⊢
    rw [List.mem_singleton.mp onPath]
    exact ⟨.refl,.refl⟩
  | succ n ih =>
    obtain ⟨before,earlier,inside⟩ := List.mem_flatMap.mp member
    obtain ⟨next,extended,rfl⟩ := List.mem_map.mp inside
    obtain ⟨neighbour,adjacent,rfl⟩ := List.mem_map.mp extended
    rcases List.mem_append.mp onPath with before | last
    · obtain ⟨there,onward⟩ := ih earlier before
      exact ⟨there,onward.tail ⟨neighbour.2,adjacent⟩⟩
    · rw [List.mem_singleton.mp last]
      exact ⟨(steps_iff_reflTransGen _).mp ⟨_,steps_of_mem_trails member⟩,.refl⟩

omit [DecidableEq α] in
theorem Walk.entries_eq_marked (root : α) (walk : Walk α ε σ) : walk.entries root = (walk.marked root).map Prod.fst := by
  unfold Walk.entries Walk.marked Search.mark
  simp [Function.comp_def]

omit [DecidableEq α] in
theorem Walk.mem_entries_of_marked {root : α} {walk : Walk α ε σ} {trail : Entry α × Option ε} (member : trail ∈ walk.marked root) :
    trail.1 ∈ walk.entries root := by
  rw [Walk.entries_eq_marked]
  exact List.mem_map_of_mem member

omit [DecidableEq α] in
theorem Walk.exists_marked {root : α} {walk : Walk α ε σ} {entry : Entry α} (member : entry ∈ walk.entries root) :
    ∃ trail ∈ walk.marked root, trail.1 = entry := by
  rw [Walk.entries_eq_marked] at member
  exact List.mem_map.mp member

open Classical in
/-- The node is at this distance and has a wanted neighbour. -/
noncomputable def Search.leads (search : Search α ε σ) (root : α) (n : ℕ) (wanted : α → Bool) (node : α) : Bool :=
  decide (search.Nearest root n node ∧ ∃ neighbour ∈ search.neighbours node, wanted neighbour.1 = true)

omit [DecidableEq α] in
theorem leads_iff {n : ℕ} {wanted : α → Bool} {node : α} : search.leads root n wanted node = true ↔
    search.Nearest root n node ∧ ∃ neighbour ∈ search.neighbours node, wanted neighbour.1 = true := by
  simp only [Search.leads,decide_eq_true_eq]

omit [DecidableEq α] in
theorem extensions_of_leads {n : ℕ} {wanted : α → Bool} {entry : Entry α} (here : search.leads root n wanted entry.node = true) :
    (search.extensions entry).find? (fun next => wanted next.1.node) ≠ none := by
  intro none
  obtain ⟨_,neighbour,adjacent,want⟩ := leads_iff.mp here
  exact List.find?_eq_none.mp none _ (List.mem_map_of_mem adjacent) want

omit [DecidableEq α] in
/-- The first walk to a wanted node extends the first walk to a node that leads to one. -/
theorem find?_trails_succ {n : ℕ} {wanted : α → Bool} (far : ∀ node, wanted node = true → search.Nearest root (n + 1) node) :
    (search.trails root (n + 1)).find? (fun trail => wanted trail.1.node) =
      (((search.trails root n).find? (fun trail => search.leads root n wanted trail.1.node)).bind fun trail =>
        (search.extensions trail.1).find? (fun next => wanted next.1.node)).map Search.mark := by
  have longer : search.trails root (n + 1) =
      (search.trails root n).flatMap (fun trail => (search.extensions trail.1).map Search.mark) := rfl
  have first : ((search.trails root n).findSome? fun trail =>
        (search.extensions trail.1).find? (fun next => wanted next.1.node)) =
      ((search.trails root n).find? (fun trail => search.leads root n wanted trail.1.node)).bind fun trail =>
        (search.extensions trail.1).find? (fun next => wanted next.1.node) := by
    apply findSome?_eq_bind (fun trail _ here => extensions_of_leads here)
    intro before trail after split given
    obtain ⟨next,found⟩ := Option.ne_none_iff_exists'.mp given
    have want : wanted next.1.node = true := by simpa using List.find?_some found
    obtain ⟨neighbour,adjacent,rfl⟩ := List.mem_map.mp (List.mem_of_find?_eq_some found)
    have member : trail ∈ search.trails root n := by
      rw [split]
      exact List.mem_append_right _ List.mem_cons_self
    have near := (far _ want).before ⟨neighbour.2,adjacent⟩ (steps_of_mem_trails member) (Nat.le_refl n)
    exact Or.inl (leads_iff.mpr ⟨near,neighbour,adjacent,want⟩)
  rw [longer,List.find?_flatMap,← first,List.map_findSome?]
  refine congrArg (fun value => (search.trails root n).findSome? value) (funext fun trail => ?_)
  exact List.find?_map

omit [DecidableEq α] in
/-- Where only the root is wanted, any list that begins with the root's entry gives it. -/
theorem find?_of_root {wanted : α → Bool} {found trails : List (Entry α × Option ε)}
    (onlyRoot : ∀ node, wanted node = true → node = root) :
    ((rootEntry root, none) :: found).find? (fun trail => wanted trail.1.node) =
      ((rootEntry root, none) :: trails).find? (fun trail => wanted trail.1.node) := by
  by_cases here : wanted root = true
  · have first : ∀ rest : List (Entry α × Option ε), ((rootEntry root, none) :: rest).find? (fun trail => wanted trail.1.node) =
        some (rootEntry root, none) := fun _ => List.find?_cons_of_pos here
    exact (first _).trans (first _).symm
  · have nowhere : ∀ rest : List (Entry α × Option ε), rest.find? (fun trail => wanted trail.1.node) = none := by
      intro rest
      apply List.find?_eq_none.mpr
      intro trail _ want
      rw [onlyRoot _ want] at want
      exact here want
    rw [nowhere,nowhere]

/-- Some node has a step back to the first of its shortest walks. -/
def Search.Returns (search : Search α ε σ) (root : α) : Prop := ∃ n trail, search.Nearest root n trail.1.node ∧
  (search.trails root n).find? (fun other => other.1.node = trail.1.node) = some trail ∧
  ∃ again ∈ trail.1.path, search.Step trail.1.node again

theorem Search.Returns.cycle (returns : search.Returns root) :
    ∃ node, Relation.ReflTransGen search.Step root node ∧ Relation.TransGen search.Step node node := by
  obtain ⟨n,trail,_,first,again,onPath,step⟩ := returns
  obtain ⟨there,onward⟩ := paths_of_mem_trails (List.mem_of_find?_eq_some first) onPath
  exact ⟨again,there,Relation.TransGen.tail' onward step⟩

section Congruence

variable {ε' σ' : Type} {other : Search α ε' σ'}

omit [DecidableEq α] in
theorem steps_congr (same : other.Step = search.Step) {n : ℕ} {node : α} : other.Steps root n node ↔ search.Steps root n node :=
  ⟨Search.Steps.imp (fun _ _ taken => same ▸ taken),Search.Steps.imp (fun _ _ taken => same ▸ taken)⟩

omit [DecidableEq α] in
theorem nearest_congr (same : other.Step = search.Step) {n : ℕ} {node : α} :
    other.Nearest root n node ↔ search.Nearest root n node := by
  simp only [Search.Nearest,steps_congr same]

end Congruence

theorem returns_congr {σ' : Type} {other : Search α ε σ'} (same : other.neighbours = search.neighbours) :
    other.Returns root ↔ search.Returns root := by
  have step : other.Step = search.Step := by
    unfold Search.Step
    rw [same]
  have trails : ∀ n, other.trails root n = search.trails root n := by
    intro n
    induction n with
    | zero => rfl
    | succ n ih =>
      unfold Search.trails Search.extensions
      rw [ih,same]
  simp only [Search.Returns,nearest_congr step,trails,step]

/-- A walk whose every step is the first of its entry's that gets a step further from the root. -/
inductive Search.Leading (search : Search α ε σ) (root : α) : ℕ → Entry α × Option ε → Prop where
  | zero : search.Leading root 0 (rootEntry root, none)
  | succ {n : ℕ} {trail : Entry α × Option ε} {earlier later : List (α × ε)} {next : α × ε}
    (before : search.Leading root n trail) (split : search.neighbours trail.1.node = earlier ++ next :: later)
    (nearer : ∀ neighbour ∈ earlier, ¬ search.Nearest root (n + 1) neighbour.1) :
    search.Leading root (n + 1) (Search.child trail.1 next.1, some next.2)

omit [DecidableEq α] in
theorem Search.Leading.mem_trails {n : ℕ} {trail : Entry α × Option ε} (leading : search.Leading root n trail) :
    trail ∈ search.trails root n := by
  induction leading with
  | zero => exact List.mem_singleton.mpr rfl
  | succ before split nearer ih =>
    rename_i n trail earlier later next
    have adjacent : next ∈ search.neighbours trail.1.node := by
      rw [split]
      exact List.mem_append_right _ List.mem_cons_self
    exact List.mem_flatMap.mpr ⟨trail,ih,List.mem_map.mpr ⟨_,List.mem_map_of_mem adjacent,rfl⟩⟩

omit [DecidableEq α] in
/-- A leading walk comes first among the walks to the nodes at its distance. -/
theorem Search.Leading.find? {n : ℕ} {trail : Entry α × Option ε} (leading : search.Leading root n trail) {wanted : α → Bool}
    (far : ∀ node, wanted node = true → search.Nearest root n node) (want : wanted trail.1.node = true) :
    (search.trails root n).find? (fun other => wanted other.1.node) = some trail := by
  induction leading generalizing wanted with
  | zero => exact List.find?_cons_of_pos want
  | succ before split nearer ih =>
    rename_i n trail earlier later next
    have adjacent : next ∈ search.neighbours trail.1.node := by
      rw [split]
      exact List.mem_append_right _ List.mem_cons_self
    have near := (far _ want).before ⟨next.2,adjacent⟩ (steps_of_mem_trails before.mem_trails) (Nat.le_refl n)
    have here : search.leads root n wanted trail.1.node = true := leads_iff.mpr ⟨near,next,adjacent,want⟩
    have none : (earlier.map fun neighbour => (Search.child trail.1 neighbour.1, neighbour.2)).find?
        (fun next => wanted next.1.node) = none := by
      apply List.find?_eq_none.mpr
      intro other member
      obtain ⟨neighbour,inside,rfl⟩ := List.mem_map.mp member
      exact fun wants => nearer neighbour inside (far _ wants)
    rw [find?_trails_succ far,ih (fun node leads => (leads_iff.mp leads).1) here,Option.bind_some]
    unfold Search.extensions
    rw [split,List.map_append,List.find?_append,none,Option.none_or,List.map_cons,List.find?_cons,want]
    rfl

namespace Complete

variable (complete : Complete search root log walk)

include complete in
theorem entry_unique {a b : Entry α} (first : a ∈ walk.entries root) (second : b ∈ walk.entries root) (same : a.node = b.node) :
    a = b := by
  have distinct := complete.state.distinct
  rw [← Walk.entries_nodes] at distinct
  exact List.inj_on_of_nodup_map distinct first second same

include complete in
/-- The depth of an entry is its distance from the root. -/
theorem nearest {entry : Entry α} (member : entry ∈ walk.entries root) : search.Nearest root entry.depth entry.node := by
  refine ⟨complete.state.walked entry member,?_⟩
  intro m walked
  by_cases within : ∀ limit ∈ search.limit, m ≤ limit
  · obtain ⟨known,listed,same,shallow⟩ := complete.state.toInvariant.known_of_steps complete.ended walked within
    rw [complete.entry_unique listed member same] at shallow
    exact shallow
  · push Not at within
    obtain ⟨limit,given,beyond⟩ := within
    have short : limit ≤ m := by omega
    exact Nat.le_trans (complete.state.bounded entry member limit given) short

include complete in
theorem known {n : ℕ} {node : α} (near : search.Nearest root n node) (within : ∀ limit ∈ search.limit, n ≤ limit) :
    ∃ entry ∈ walk.entries root, entry.node = node ∧ entry.depth = n := by
  obtain ⟨entry,member,rfl,_⟩ := complete.state.toInvariant.known_of_steps complete.ended near.1 within
  exact ⟨entry,member,rfl,(complete.nearest member).unique near⟩

include complete in
theorem mem_nodes_iff (node : α) :
    node ∈ walk.nodes ↔ node ≠ root ∧ ∃ n, (∀ limit ∈ search.limit, n ≤ limit) ∧ search.Steps root n node :=
  complete.state.toInvariant.mem_nodes_iff complete.ended node

include complete in
/-- Every found entry is one step further than an entry, under the label of the step. -/
theorem parent {found : Entry α × ε} (member : found ∈ walk.found) :
    ∃ before ∈ walk.entries root, search.reaches before.depth = true ∧ found.1 = Search.child before found.1.node ∧
      (found.1.node, found.2) ∈ search.neighbours before.node := by
  have collected := complete.state.collected
  rw [collected] at member
  obtain ⟨before,listed,inside⟩ := List.mem_flatMap.mp (fresh_subset member)
  unfold Search.offered at inside
  split at inside
  · rename_i reached
    obtain ⟨neighbour,adjacent,rfl⟩ := List.mem_map.mp inside
    exact ⟨before,listed,reached,rfl,adjacent⟩
  · cases inside

include complete in
/-- An entry that is nearer to the root stands before. -/
theorem before_of_depth_lt {before after : List (Entry α)} {entry nearer : Entry α}
    (split : walk.entries root = before ++ entry :: after) (listed : nearer ∈ walk.entries root)
    (less : nearer.depth < entry.depth) : nearer ∈ before := by
  have sorted := complete.state.sorted
  rw [split] at listed sorted
  rw [List.map_append,List.pairwise_append,List.map_cons,List.pairwise_cons] at sorted
  rcases List.mem_append.mp listed with inside | later
  · exact inside
  · rcases List.mem_cons.mp later with rfl | last
    · omega
    · have deep := sorted.2.1.1 nearer.depth (List.mem_map_of_mem last)
      omega

include complete in
/-- What offers a node at the next distance is led by an entry at this distance. -/
theorem offers_led {n : ℕ} (within : ∀ limit ∈ search.limit, n + 1 ≤ limit) {wanted : α → Bool}
    (far : ∀ node, wanted node = true → search.Nearest root (n + 1) node)
    {before after : List (Entry α)} {entry : Entry α} (split : walk.entries root = before ++ entry :: after)
    (given : (search.offered entry).find? (fun next => wanted next.1.node) ≠ none) :
    search.leads root n wanted entry.node = true ∨ ∃ earlier ∈ before, search.leads root n wanted earlier.node = true := by
  obtain ⟨next,first⟩ := Option.ne_none_iff_exists'.mp given
  have reachable : next ∈ search.extensions entry := by
    have member := List.mem_of_find?_eq_some first
    unfold Search.offered at member
    split at member
    · exact member
    · cases member
  have want : wanted next.1.node = true := by simpa using List.find?_some first
  obtain ⟨neighbour,adjacent,rfl⟩ := List.mem_map.mp reachable
  have listed : entry ∈ walk.entries root := by
    rw [split]
    exact List.mem_append_right _ List.mem_cons_self
  have near := complete.nearest listed
  have bound : n ≤ entry.depth := Nat.succ_le_succ_iff.mp ((far _ want).2 _ (.succ near.1 ⟨neighbour.2,adjacent⟩))
  rcases Nat.lt_or_eq_of_le bound with deeper | same
  · obtain ⟨middle,middleNear,step⟩ := (far _ want).pred
    obtain ⟨leader,known,rfl,depth⟩ :=
      complete.known middleNear (fun limit given => Nat.le_of_succ_le (within limit given))
    obtain ⟨label,link⟩ := step
    have less : leader.depth < entry.depth := by omega
    exact Or.inr ⟨leader,complete.before_of_depth_lt split known less,leads_iff.mpr ⟨middleNear,_,link,want⟩⟩
  · rw [← same] at near
    exact Or.inl (leads_iff.mpr ⟨near,neighbour,adjacent,want⟩)

include complete in
/-- A wanted node other than the root was found by the first entry that offered one. -/
theorem find?_marked {wanted : α → Bool} (other : wanted root = false) :
    (walk.marked root).find? (fun trail => wanted trail.1.node) =
      ((walk.marked root).findSome? fun trail =>
        (search.offered trail.1).find? (fun next => wanted next.1.node)).map Search.mark := by
  have unknown : ∀ node ∈ [root], wanted node = false := by
    intro node member
    rw [List.mem_singleton.mp member]
    exact other
  have collected := complete.state.collected
  have firstOffer : walk.found.find? (fun next => wanted next.1.node) =
      (walk.marked root).findSome? fun trail => (search.offered trail.1).find? (fun next => wanted next.1.node) := by
    rw [collected,find?_fresh unknown,List.find?_flatMap,Walk.entries_eq_marked,List.findSome?_map]
    rfl
  rw [← firstOffer]
  unfold Walk.marked
  rw [List.find?_cons_of_neg (by simp [rootEntry,other]),List.find?_map]
  rfl

include complete in
theorem offered_of_nearest {n : ℕ} (within : ∀ limit ∈ search.limit, n + 1 ≤ limit) {entry : Entry α}
    (member : entry ∈ walk.entries root) (near : search.Nearest root n entry.node) :
    search.offered entry = search.extensions entry := by
  have depth : entry.depth = n := (complete.nearest member).unique near
  have reached : search.reaches entry.depth = true := by
    unfold Search.reaches
    cases given : search.limit with
    | none => rfl
    | some limit =>
      rw [depth,Option.all_some,decide_eq_true_eq]
      exact within limit given
  exact if_pos reached

include complete in
/-- A wanted node at the next distance is first offered by the first entry that leads to one. -/
theorem find?_offered {n : ℕ} (within : ∀ limit ∈ search.limit, n + 1 ≤ limit) {wanted : α → Bool}
    (far : ∀ node, wanted node = true → search.Nearest root (n + 1) node) :
    ((walk.marked root).findSome? fun trail => (search.offered trail.1).find? (fun next => wanted next.1.node)) =
      ((walk.marked root).find? (fun trail => search.leads root n wanted trail.1.node)).bind fun trail =>
        (search.extensions trail.1).find? (fun next => wanted next.1.node) := by
  have onward : ∀ trail ∈ walk.marked root, search.leads root n wanted trail.1.node = true →
      search.offered trail.1 = search.extensions trail.1 := fun trail member here =>
    complete.offered_of_nearest within (Walk.mem_entries_of_marked member) (leads_iff.mp here).1
  have first : ((walk.marked root).findSome? fun trail => (search.offered trail.1).find? (fun next => wanted next.1.node)) =
      ((walk.marked root).find? (fun trail => search.leads root n wanted trail.1.node)).bind fun trail =>
        (search.offered trail.1).find? (fun next => wanted next.1.node) := by
    apply findSome?_eq_bind
    · intro trail member here
      rw [onward trail member here]
      exact extensions_of_leads here
    · intro before trail after split given
      have entries : walk.entries root = before.map Prod.fst ++ trail.1 :: after.map Prod.fst := by
        rw [Walk.entries_eq_marked,split,List.map_append,List.map_cons]
      rcases complete.offers_led within far entries given with here | ⟨entry,member,here⟩
      · exact Or.inl here
      · obtain ⟨leader,inside,rfl⟩ := List.mem_map.mp member
        exact Or.inr ⟨leader,inside,here⟩
  rw [first]
  apply Option.bind_congr
  intro trail found
  have here : search.leads root n wanted trail.1.node = true := by simpa using List.find?_some found
  rw [onward trail (List.mem_of_find?_eq_some found) here]

include complete in
/-- Of the nodes at one distance, the entry found first is the first walk of that length. -/
theorem find?_trails (n : ℕ) (within : ∀ limit ∈ search.limit, n ≤ limit) (wanted : α → Bool)
    (far : ∀ node, wanted node = true → search.Nearest root n node) :
    (walk.marked root).find? (fun trail => wanted trail.1.node) =
      (search.trails root n).find? (fun trail => wanted trail.1.node) := by
  induction n generalizing wanted with
  | zero => exact find?_of_root fun node want => (far node want).eq_root
  | succ n ih =>
    have near : ∀ node, search.leads root n wanted node = true → search.Nearest root n node :=
      fun node here => (leads_iff.mp here).1
    have other : wanted root = false := by
      cases here : wanted root with
      | false => rfl
      | true => exact absurd ((far root here).2 0 .zero) (Nat.not_succ_le_zero n)
    rw [complete.find?_marked other,complete.find?_offered within far,find?_trails_succ far,
      ← ih (fun limit given => Nat.le_of_succ_le (within limit given)) _ near]

include complete in
/-- Every node was found by the first of its shortest walks. -/
theorem first_trail {trail : Entry α × Option ε} (member : trail ∈ walk.marked root) :
    (search.trails root trail.1.depth).find? (fun other => other.1.node = trail.1.node) = some trail := by
  have listed := Walk.mem_entries_of_marked member
  have distinct : ((walk.marked root).map (fun other => other.1.node)).Nodup := by
    have nodes := complete.state.distinct
    rw [← Walk.entries_nodes,Walk.entries_eq_marked,List.map_map] at nodes
    exact nodes
  have far : ∀ node, decide (node = trail.1.node) = true → search.Nearest root trail.1.depth node := by
    intro node same
    rw [of_decide_eq_true same]
    exact complete.nearest listed
  rw [← complete.find?_trails trail.1.depth (complete.state.bounded trail.1 listed) _ far]
  exact find?_of_nodup distinct member

include complete in
/-- As far away as an entry is, there is an entry at every distance before it. -/
theorem depth_lt {entry : Entry α} (member : entry ∈ walk.entries root) : entry.depth < (walk.entries root).length := by
  have covered : ∀ m ∈ List.range (entry.depth + 1), m ∈ (walk.entries root).map Entry.depth := by
    intro m inside
    have least : m ≤ entry.depth := Nat.le_of_lt_succ (List.mem_range.mp inside)
    obtain ⟨before,close⟩ := (complete.nearest member).nearer least
    have within : ∀ limit ∈ search.limit, m ≤ limit :=
      fun limit given => Nat.le_trans least (complete.state.bounded entry member limit given)
    obtain ⟨known,listed,_,depth⟩ := complete.known close within
    rw [← depth]
    exact List.mem_map_of_mem listed
  have counted := (List.subperm_of_subset List.nodup_range covered).length_le
  rwa [List.length_range,List.length_map] at counted

include complete in
/-- Where no node is beyond the limit, an entry had a neighbour on its path exactly when a node returns. -/
theorem returns_iff (within : ∀ n node, search.Nearest root n node → ∀ limit ∈ search.limit, n ≤ limit) :
    (∃ entry ∈ walk.entries root, ∃ neighbour ∈ search.neighbours entry.node, neighbour.1 ∈ entry.path) ↔ search.Returns root := by
  constructor
  · rintro ⟨entry,member,neighbour,adjacent,onPath⟩
    obtain ⟨trail,listed,rfl⟩ := Walk.exists_marked member
    exact ⟨trail.1.depth,trail,complete.nearest member,complete.first_trail listed,neighbour.1,onPath,neighbour.2,adjacent⟩
  · rintro ⟨n,trail,near,first,again,onPath,label,adjacent⟩
    obtain ⟨entry,member,same,rfl⟩ := complete.known near (within n _ near)
    obtain ⟨found,listed,rfl⟩ := Walk.exists_marked member
    have own := complete.first_trail listed
    rw [same,first] at own
    have equal := Option.some.inj own
    rw [equal] at onPath adjacent
    exact ⟨found.1,member,_,adjacent,onPath⟩

end Complete

end Trails

end CloudLens.Library.Traversal
