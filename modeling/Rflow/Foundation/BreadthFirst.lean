import Rflow.Foundation.Keyed

/-!
# Breadth-first placement

The nodes of a graph are placed in a group: the first node at zero, and every other node, when it is
met for the first time, at the place of the node that it is met from and the step of the edge.  A
node that is met again elsewhere is a conflict.  Exactly the nodes that walks lead to are placed;
there is a conflict exactly when two walks to one node end at different places; and without a
conflict the walks end where their nodes are placed.
-/

namespace Foundation
namespace BreadthFirst

variable {κ G : Type*}

/-- A walk along the edges from the first node ends at a node and, with the sum of its steps, at a
place. -/
inductive Walk [AddZeroClass G] (next : κ → List (κ × G)) (first : κ) : κ → G → Prop
  | nil : Walk next first first 0
  | step {node target : κ} {place step : G} (walk : Walk next first node place)
      (edge : (target, step) ∈ next node) : Walk next first target (place + step)

/-- The nodes placed so far, those of them whose edges have not been followed, and whether a node
has been met at two places. -/
structure Search (κ G : Type*) where
  placed : List (κ × G)
  queue : List κ
  conflict : Bool
  deriving DecidableEq

/-- Nothing that is placed is lost, and no conflict is forgotten. -/
structure Search.Grows (search later : Search κ G) : Prop where
  placed : ∀ entry ∈ search.placed, entry ∈ later.placed
  conflict : later.conflict = false → search.conflict = false

theorem Search.Grows.refl (search : Search κ G) : search.Grows search := ⟨fun _ => id, id⟩

theorem Search.Grows.trans {search later last : Search κ G} (first : search.Grows later)
    (second : later.Grows last) : search.Grows last :=
  ⟨fun entry member => second.placed entry (first.placed entry member),
    fun free => first.conflict (second.conflict free)⟩

/-- A node is placed, and it is there unless there is a conflict. -/
def Search.Settles (search : Search κ G) (target : κ) (place : G) : Prop :=
  target ∈ search.placed.map Prod.fst ∧ (search.conflict = false → (target, place) ∈ search.placed)

theorem Search.Settles.grows {search later : Search κ G} {target : κ} {place : G}
    (settles : search.Settles target place) (grows : search.Grows later) :
    later.Settles target place := by
  obtain ⟨entry, member, same⟩ := List.mem_map.mp settles.1
  exact ⟨List.mem_map.mpr ⟨entry, grows.placed entry member, same⟩,
    fun free => grows.placed _ (settles.2 (grows.conflict free))⟩

variable [DecidableEq κ]

def placeOf (placed : List (κ × G)) (node : κ) : Option G :=
  (placed.find? fun entry => entry.1 = node).map Prod.snd

theorem placeOf_eq_none {placed : List (κ × G)} {node : κ} :
    placeOf placed node = none ↔ node ∉ placed.map Prod.fst := by
  simp only [placeOf, Option.map_eq_none_iff, List.find?_eq_none, decide_eq_true_eq, List.mem_map]
  exact ⟨fun none ⟨entry, member, same⟩ => none entry member same,
    fun missing entry member same => missing ⟨entry, member, same⟩⟩

theorem mem_of_placeOf {placed : List (κ × G)} {node : κ} {place : G}
    (found : placeOf placed node = some place) : (node, place) ∈ placed := by
  obtain ⟨⟨key, _⟩, entry, rfl⟩ := Option.map_eq_some_iff.mp found
  obtain rfl : key = node := by simpa using List.find?_some entry
  exact List.mem_of_find?_eq_some entry

theorem placeOf_eq_some {placed : List (κ × G)} {node : κ} {place : G}
    (distinct : Keyed.Distinct Prod.fst placed) :
    placeOf placed node = some place ↔ (node, place) ∈ placed := by
  simp only [placeOf, Option.map_eq_some_iff, distinct.find?_eq_some]
  constructor
  · rintro ⟨⟨_, _⟩, ⟨member, rfl⟩, rfl⟩
    exact member
  · intro member
    exact ⟨(node, place), ⟨member, rfl⟩, rfl⟩

variable [DecidableEq G]

/-- Meet a node at a place. -/
def Search.propose (search : Search κ G) (target : κ) (place : G) : Search κ G :=
  match placeOf search.placed target with
  | some existing => if existing ≠ place then { search with conflict := true } else search
  | none =>
      { search with
        placed := search.placed ++ [(target, place)]
        queue := search.queue ++ [target] }

/-- A node that is met is at another place, or there, or it is placed there and queued. -/
theorem Search.propose_cases {search : Search κ G}
    (distinct : Keyed.Distinct Prod.fst search.placed) (target : κ) (place : G) :
    (∃ existing, (target, existing) ∈ search.placed ∧ existing ≠ place ∧
      search.propose target place = { search with conflict := true }) ∨
    ((target, place) ∈ search.placed ∧ search.propose target place = search) ∨
    (target ∉ search.placed.map Prod.fst ∧ search.propose target place =
      { search with
        placed := search.placed ++ [(target, place)]
        queue := search.queue ++ [target] }) := by
  rw [propose]
  cases found : placeOf search.placed target with
  | none => exact .inr (.inr ⟨placeOf_eq_none.mp found, rfl⟩)
  | some existing =>
      have member := (placeOf_eq_some distinct).mp found
      by_cases same : existing = place
      · exact .inr (.inl ⟨same ▸ member, by simp [same]⟩)
      · exact .inl ⟨existing, member, same, by simp [same]⟩

theorem Search.propose_grows (search : Search κ G) (target : κ) (place : G) :
    search.Grows (search.propose target place) := by
  rw [propose]
  split
  · split_ifs
    · exact ⟨fun _ => id, nofun⟩
    · exact .refl search
  · exact ⟨fun _ => List.mem_append_left _, id⟩

theorem Search.propose_settles {search : Search κ G}
    (distinct : Keyed.Distinct Prod.fst search.placed) (target : κ) (place : G) :
    (search.propose target place).Settles target place := by
  rcases propose_cases distinct target place with
    ⟨existing, member, _, step⟩ | ⟨member, step⟩ | ⟨_, step⟩
  · rw [step]
    exact ⟨List.mem_map_of_mem member, nofun⟩
  · rw [step]
    exact ⟨List.mem_map_of_mem member, fun _ => member⟩
  · rw [step]
    exact ⟨by simp, fun _ => by simp⟩

theorem Search.propose_keys {search : Search κ G} {done : List κ} (target : κ) (place : G)
    (keys : search.placed.map Prod.fst = done ++ search.queue) :
    (search.propose target place).placed.map Prod.fst =
      done ++ (search.propose target place).queue := by
  rw [propose]
  split
  · split_ifs <;> exact keys
  · simp [keys]

variable [AddZeroClass G] {next : κ → List (κ × G)} {first : κ}

namespace Search

def start (first : κ) : Search κ G where
  placed := [(first, 0)]
  queue := [first]
  conflict := false

/-- Follow edges from a place. -/
def expand (search : Search κ G) (place : G) : List (κ × G) → Search κ G
  | [] => search
  | edge :: edges => (search.propose edge.1 (place + edge.2)).expand place edges

/-- Follow the edges of the nodes in the queue, one node after the other. -/
def run (next : κ → List (κ × G)) : Nat → Search κ G → Search κ G
  | 0, search => search
  | fuel + 1, search =>
      match search.queue with
      | [] => search
      | node :: queue =>
          match placeOf search.placed node with
          | none => search
          | some place => run next fuel ({ search with queue }.expand place (next node))

theorem expand_grows (search : Search κ G) (place : G) (edges : List (κ × G)) :
    search.Grows (search.expand place edges) := by
  induction edges generalizing search with
  | nil => exact .refl search
  | cons edge edges induction => exact (propose_grows ..).trans (induction _)

theorem follow_grows (search : Search κ G) (queue : List κ) (place : G) (edges : List (κ × G)) :
    search.Grows ({ search with queue }.expand place edges) :=
  (⟨fun _ => id, id⟩ : search.Grows { search with queue }).trans (expand_grows ..)

theorem run_nil {search : Search κ G} (empty : search.queue = []) (fuel : Nat) :
    run next fuel search = search := by
  cases fuel with
  | zero => rfl
  | succ fuel =>
      rw [run]
      simp only [empty]

theorem run_cons {search : Search κ G} {node : κ} {queue : List κ} {place : G}
    (waiting : search.queue = node :: queue) (placed : placeOf search.placed node = some place)
    (fuel : Nat) :
    run next (fuel + 1) search =
      run next fuel ({ search with queue }.expand place (next node)) := by
  conv_lhs => unfold run
  simp only [waiting, placed]

/-- What holds at the start, and after following the edges of a queued node, holds at the end. -/
theorem run_induction (Property : Search κ G → Prop)
    (follow : ∀ search node queue place, search.queue = node :: queue →
      placeOf search.placed node = some place → Property search →
        Property ({ search with queue }.expand place (next node)))
    (fuel : Nat) {search : Search κ G} (holds : Property search) :
    Property (run next fuel search) := by
  induction fuel generalizing search with
  | zero => exact holds
  | succ fuel induction =>
      rw [run]
      split
      · exact holds
      · rename_i node queue waiting
        split
        · exact holds
        · rename_i place placed
          exact induction (follow search node queue place waiting placed holds)

theorem run_grows (next : κ → List (κ × G)) (fuel : Nat) (search : Search κ G) :
    search.Grows (run next fuel search) := by
  refine run_induction search.Grows ?_ fuel (.refl search)
  intro later node queue place _ _ grows
  exact grows.trans (follow_grows ..)

/-! ## What is placed -/

/-- Nodes are placed once, the first one at zero, where walks end; and a conflict comes from two
walks to one node. -/
structure Sound (next : κ → List (κ × G)) (first : κ) (search : Search κ G) : Prop where
  distinct : Keyed.Distinct Prod.fst search.placed
  origin : (first, 0) ∈ search.placed
  walks : ∀ entry ∈ search.placed, Walk next first entry.1 entry.2
  conflict : search.conflict = true →
    ∃ node place other, Walk next first node place ∧ Walk next first node other ∧ place ≠ other

theorem Sound.propose {search : Search κ G} (sound : search.Sound next first) {target : κ}
    {place : G} (walk : Walk next first target place) :
    (search.propose target place).Sound next first := by
  rcases propose_cases sound.distinct target place with
    ⟨existing, member, different, step⟩ | ⟨_, step⟩ | ⟨missing, step⟩
  · rw [step]
    have found : Walk next first target existing := sound.walks _ member
    exact { sound with conflict := fun _ => ⟨target, existing, place, found, walk, different⟩ }
  · rwa [step]
  · rw [step]
    refine ⟨?_, List.mem_append_left _ sound.origin, ?_, sound.conflict⟩
    · have fresh : (search.placed.map Prod.fst ++ [target]).Nodup :=
        List.Nodup.append sound.distinct (List.nodup_singleton target) (by simpa using missing)
      simpa [Keyed.Distinct] using fresh
    · intro entry member
      rcases List.mem_append.mp member with old | new
      · exact sound.walks entry old
      · obtain rfl := List.mem_singleton.mp new
        exact walk

theorem Sound.expand {search : Search κ G} (sound : search.Sound next first) {node : κ} {place : G}
    (walk : Walk next first node place) {edges : List (κ × G)}
    (out : ∀ edge ∈ edges, edge ∈ next node) : (search.expand place edges).Sound next first := by
  induction edges generalizing search with
  | nil => exact sound
  | cons edge edges induction =>
      have walked : Walk next first edge.1 (place + edge.2) :=
        walk.step (out edge List.mem_cons_self)
      exact induction (sound.propose walked) fun other member =>
        out other (List.mem_cons_of_mem _ member)

theorem Sound.expand_settles {search : Search κ G} (sound : search.Sound next first) {node : κ}
    {place : G} (walk : Walk next first node place) {edges : List (κ × G)}
    (out : ∀ edge ∈ edges, edge ∈ next node) :
    ∀ edge ∈ edges, (search.expand place edges).Settles edge.1 (place + edge.2) := by
  induction edges generalizing search with
  | nil => simp
  | cons edge edges induction =>
      have walked : Walk next first edge.1 (place + edge.2) :=
        walk.step (out edge List.mem_cons_self)
      have rest := induction (sound.propose walked) fun other member =>
        out other (List.mem_cons_of_mem _ member)
      refine List.forall_mem_cons.mpr ⟨?_, rest⟩
      exact (propose_settles sound.distinct ..).grows (expand_grows ..)

theorem expand_keys {search : Search κ G} {done : List κ} (place : G) (edges : List (κ × G))
    (keys : search.placed.map Prod.fst = done ++ search.queue) :
    (search.expand place edges).placed.map Prod.fst =
      done ++ (search.expand place edges).queue := by
  induction edges generalizing search with
  | nil => exact keys
  | cons edge edges induction => exact induction (propose_keys _ _ keys)

omit [DecidableEq κ] [DecidableEq G] in
/-- Nodes are placed once, so a node that was placed stands where it stood. -/
theorem Sound.mem_of_grows {search later : Search κ G} (sound : later.Sound next first)
    (grows : search.Grows later) {entry : κ × G} (known : entry.1 ∈ search.placed.map Prod.fst)
    (member : entry ∈ later.placed) : entry ∈ search.placed := by
  obtain ⟨old, placed, same⟩ := List.mem_map.mp known
  rwa [← sound.distinct.eq_of_key (grows.placed old placed) member same]

/-! ## Whole searches -/

/-- The edges of the nodes that are done have been followed; the others are in the queue. -/
structure Explored (next : κ → List (κ × G)) (first : κ) (done : List κ) (search : Search κ G) :
    Prop extends search.Sound next first where
  keys : search.placed.map Prod.fst = done ++ search.queue
  settled : ∀ entry ∈ search.placed, entry.1 ∈ done →
    ∀ edge ∈ next entry.1, search.Settles edge.1 (entry.2 + edge.2)

omit [DecidableEq κ] [DecidableEq G] in
theorem explored_start (first : κ) : (start first).Explored next first [] where
  distinct := List.nodup_singleton first
  origin := List.mem_singleton_self _
  walks := by
    intro entry member
    obtain rfl := List.mem_singleton.mp member
    exact .nil
  conflict := nofun
  keys := rfl
  settled := nofun

/-- Following the edges of a queued node makes it done. -/
theorem Explored.follow {search : Search κ G} {done queue : List κ} {node : κ} {place : G}
    (explored : search.Explored next first done) (waiting : search.queue = node :: queue)
    (placed : placeOf search.placed node = some place) :
    ({ search with queue }.expand place (next node)).Explored next first (done ++ [node]) := by
  have member := (placeOf_eq_some explored.distinct).mp placed
  have walk : Walk next first node place := explored.walks _ member
  have sound : Sound next first { search with queue } :=
    ⟨explored.distinct, explored.origin, explored.walks, explored.conflict⟩
  have grows := follow_grows search queue place (next node)
  have expanded : Sound next first ({ search with queue }.expand place (next node)) :=
    sound.expand walk fun _ => id
  refine { expanded with keys := ?_, settled := ?_ }
  · refine expand_keys place (next node) ?_
    rw [explored.keys, waiting]
    simp
  · intro entry found isDone edge out
    rcases List.mem_append.mp isDone with before | now
    · have known : entry.1 ∈ search.placed.map Prod.fst :=
        explored.keys ▸ List.mem_append_left _ before
      have old := expanded.mem_of_grows grows known found
      exact (explored.settled entry old before edge out).grows grows
    · have same : entry = (node, place) :=
        expanded.distinct.eq_of_key found (grows.placed _ member) (List.mem_singleton.mp now)
      rw [same] at out ⊢
      exact sound.expand_settles walk (fun _ => id) edge out

/-- What is done when nothing is queued. -/
structure Finished (next : κ → List (κ × G)) (first : κ) (search : Search κ G) : Prop
    extends search.Sound next first where
  settled : ∀ entry ∈ search.placed, ∀ edge ∈ next entry.1,
    search.Settles edge.1 (entry.2 + edge.2)

omit [DecidableEq κ] [DecidableEq G] in
theorem Explored.finished {search : Search κ G} {done : List κ}
    (explored : search.Explored next first done) (empty : search.queue = []) :
    search.Finished next first where
  toSound := explored.toSound
  settled := by
    intro entry member
    have key := List.mem_map_of_mem member (f := Prod.fst)
    rw [explored.keys, empty, List.append_nil] at key
    exact explored.settled entry member key

omit [DecidableEq κ] [DecidableEq G] in
theorem Explored.length_le {search : Search κ G} {done nodes : List κ}
    (explored : search.Explored next first done)
    (inside : ∀ node place, Walk next first node place → node ∈ nodes) :
    done.length + search.queue.length ≤ nodes.length := by
  have contained : search.placed.map Prod.fst ⊆ nodes := by
    intro node member
    obtain ⟨entry, placed, rfl⟩ := List.mem_map.mp member
    exact inside entry.1 entry.2 (explored.walks entry placed)
  have shorter := (explored.distinct.subperm contained).length_le
  rwa [explored.keys, List.length_append] at shorter

/-- With fuel for every node that a walk leads to, a search finishes. -/
theorem Explored.run {search : Search κ G} {done nodes : List κ}
    (explored : search.Explored next first done)
    (inside : ∀ node place, Walk next first node place → node ∈ nodes) {fuel : Nat}
    (enough : nodes.length ≤ done.length + fuel) :
    (run next fuel search).Finished next first ∧ (Search.run next fuel search).queue = [] := by
  induction fuel generalizing search done with
  | zero =>
      have shorter := explored.length_le inside
      have empty : search.queue = [] := List.eq_nil_of_length_eq_zero (by omega)
      exact ⟨explored.finished empty, empty⟩
  | succ fuel induction =>
      cases waiting : search.queue with
      | nil =>
          rw [run_nil waiting]
          exact ⟨explored.finished waiting, waiting⟩
      | cons node queue =>
          have key : node ∈ search.placed.map Prod.fst := by
            rw [explored.keys, waiting]
            simp
          cases placed : placeOf search.placed node with
          | none => exact absurd key (placeOf_eq_none.mp placed)
          | some place =>
              rw [run_cons waiting placed]
              refine induction (explored.follow waiting placed) ?_
              rw [List.length_append, List.length_singleton]
              omega

theorem finished_run {nodes : List κ}
    (inside : ∀ node place, Walk next first node place → node ∈ nodes) {fuel : Nat}
    (enough : nodes.length ≤ fuel) :
    (run next fuel (start first)).Finished next first ∧ (run next fuel (start first)).queue = [] :=
  (explored_start first).run inside (by simpa using enough)

namespace Finished

variable {search : Search κ G} (finished : search.Finished next first)

include finished

omit [DecidableEq κ] [DecidableEq G]

/-- Exactly the nodes that walks lead to are placed. -/
theorem mem_keys_iff {node : κ} :
    node ∈ search.placed.map Prod.fst ↔ ∃ place, Walk next first node place := by
  constructor
  · intro member
    obtain ⟨entry, placed, rfl⟩ := List.mem_map.mp member
    exact ⟨entry.2, finished.walks entry placed⟩
  · rintro ⟨place, walk⟩
    induction walk with
    | nil => exact List.mem_map_of_mem finished.origin
    | step _ edge induction =>
        obtain ⟨entry, placed, rfl⟩ := List.mem_map.mp induction
        exact (finished.settled entry placed _ edge).1

/-- Without a conflict, walks end where their nodes are placed. -/
theorem mem_placed_iff (free : search.conflict = false) {node : κ} {place : G} :
    (node, place) ∈ search.placed ↔ Walk next first node place := by
  constructor
  · exact finished.walks (node, place)
  · intro walk
    induction walk with
    | nil => exact finished.origin
    | step _ edge induction => exact (finished.settled _ induction _ edge).2 free

/-- There is a conflict exactly when two walks to one node end at different places. -/
theorem conflict_iff :
    search.conflict = true ↔
      ∃ node place other,
        Walk next first node place ∧ Walk next first node other ∧ place ≠ other := by
  constructor
  · exact finished.conflict
  · rintro ⟨node, place, other, walk, walk', different⟩
    by_contra free
    rw [Bool.not_eq_true] at free
    have here := (finished.mem_placed_iff free).mpr walk
    have there := (finished.mem_placed_iff free).mpr walk'
    exact different (Prod.mk.inj (finished.distinct.eq_of_key here there rfl)).2

end Finished

/-! ## How far the places are apart -/

/-- A measure of places differs by less than the number of placed nodes. -/
def Narrow (measure : G → Int) (search : Search κ G) : Prop :=
  ∀ entry ∈ search.placed, ∀ other ∈ search.placed,
    measure entry.2 - measure other.2 < search.placed.length

omit [AddZeroClass G] in
theorem Narrow.propose {measure : G → Int} {search : Search κ G}
    (narrow : search.Narrow measure) {entry : κ × G} (member : entry ∈ search.placed) {place : G}
    (short : |measure place - measure entry.2| ≤ 1) (target : κ) :
    (search.propose target place).Narrow measure := by
  rw [Search.propose]
  split
  · split_ifs <;> exact narrow
  · have bounds := abs_le.mp short
    have positive := List.length_pos_of_mem member
    intro left inLeft right inRight
    rw [List.length_append, List.length_singleton]
    rcases List.mem_append.mp inLeft with old | new
    · rcases List.mem_append.mp inRight with old' | new'
      · have apart := narrow left old right old'
        omega
      · obtain rfl := List.mem_singleton.mp new'
        have apart := narrow left old entry member
        dsimp only
        omega
    · obtain rfl := List.mem_singleton.mp new
      rcases List.mem_append.mp inRight with old' | new'
      · have apart := narrow entry member right old'
        dsimp only
        omega
      · obtain rfl := List.mem_singleton.mp new'
        dsimp only
        omega

theorem Narrow.expand {measure : G → Int} {search : Search κ G} (narrow : search.Narrow measure)
    {entry : κ × G} (member : entry ∈ search.placed) {edges : List (κ × G)}
    (short : ∀ edge ∈ edges, |measure (entry.2 + edge.2) - measure entry.2| ≤ 1) :
    (search.expand entry.2 edges).Narrow measure := by
  induction edges generalizing search with
  | nil => exact narrow
  | cons edge edges induction =>
      obtain ⟨here, rest⟩ := List.forall_mem_cons.mp short
      exact induction (narrow.propose member here edge.1)
        ((propose_grows ..).placed entry member) rest

/-- When no edge is longer than one, the places differ by less than the number of placed nodes. -/
theorem run_narrow {measure : G → Int}
    (short : ∀ node place, ∀ edge ∈ next node, |measure (place + edge.2) - measure place| ≤ 1)
    (fuel : Nat) (first : κ) : (run next fuel (start first)).Narrow measure := by
  suffices both : ∃ done, (run next fuel (start first)).Explored next first done ∧
      (run next fuel (start first)).Narrow measure from both.elim fun _ => And.right
  refine run_induction (fun search => ∃ done, search.Explored next first done ∧
    search.Narrow measure) ?_ fuel ⟨[], explored_start first, ?_⟩
  · rintro search node queue place waiting placed ⟨done, explored, narrow⟩
    have member := (placeOf_eq_some explored.distinct).mp placed
    have unqueued : Narrow measure { search with queue } := narrow
    exact ⟨done ++ [node], explored.follow waiting placed,
      unqueued.expand member fun edge out => short node place edge out⟩
  · intro entry member other member'
    obtain rfl := List.mem_singleton.mp member
    obtain rfl := List.mem_singleton.mp member'
    simp [start]

end Search
end BreadthFirst
end Foundation
