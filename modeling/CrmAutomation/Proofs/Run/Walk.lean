import CrmAutomation.Proofs.Engine.Perform
import CrmAutomation.Run.Basic

/-!
The walk of a run, visit by visit.

A visit holds the engine before it, after the work of the node, and after its progress was written.
The walk is described as a relation on the ids seen so far and the queue; it relates every start to
one list of visits and one end, and these decide what the program does.
-/

namespace CrmAutomation

open EngineM

namespace Run

structure Visit where
  node : Node
  /-- The run and the engine as the node found them. -/
  run : Run
  before : Engine
  result : NodeResult
  /-- The engine when the node was done, and after the attempt to write the progress. -/
  after : Engine
  settled : Engine
  deriving DecidableEq

namespace Visit

/-- The step that is kept of the visit. -/
def step (v : Visit) : Step where
  nodeId := v.node.id
  nodeType := v.node.typeName
  startedAt := v.before.clock
  completedAt := v.after.clock
  result := v.result

def outcome (v : Visit) : Run := v.run.push v.step

def failed (v : Visit) : Bool := !v.result.succeeded

def next (d : Definition) (v : Visit) : List Node := d.flow.successors v.node.id v.result.next

def queued (d : Definition) (seen : List String) (v : Visit) : List Node :=
  (v.next d).filter fun m => m.id ∉ seen

/-- The engine as the visit leaves it: a failed node is logged once its progress was written. -/
def left (d : Definition) (v : Visit) : Engine :=
  ((proceed d v.node v.result).perform v.settled).2

/-- A run of the definition that comes to the node with this engine makes the visit. -/
structure Happens (d : Definition) (n : Node) (r : Run) (e : Engine) (v : Visit) : Prop where
  node : v.node = n
  run : v.run = r
  before : v.before = e
  executed : (n.execute d.flow r.scope).perform e = (.ok v.result, v.after)
  recorded : (recordProgress v.outcome).perform v.after = (.ok (), v.settled)

def GoesOn (d : Definition) (v : Visit) : Prop :=
  d.errorHandling = .stop → v.result.fault? = none

end Visit

/-- How a walk ends: the queue is empty, a fault stops it, or a node fails outside of its result. -/
inductive Ending where
  | finished
  | stopped (error : Value)
  | raised (node : Node) (failure : Failure)
  deriving DecidableEq

def Ending.outcome (r : Run) : Ending → Except Failure (Option Value × Run)
  | finished => .ok (none, r)
  | stopped error => .ok (some error, r)
  | raised _ failure => .error failure

/-- `Walks d seen queue r e vs ending r' e'`: with the ids in `seen` already executed and `queue`
waiting, the walk makes the visits `vs` and ends with the run `r'` on the engine `e'`. -/
inductive Walks (d : Definition) : List String → List Node → Run → Engine →
    List Visit → Ending → Run → Engine → Prop
  | done {seen r e} : Walks d seen [] r e [] .finished r e
  | pass {seen n queue r e vs ending r' e'} (h : n.id ∈ seen)
      (rest : Walks d seen queue r e vs ending r' e') :
      Walks d seen (n :: queue) r e vs ending r' e'
  | visit {seen n queue r e v vs ending r' e'} (h : n.id ∉ seen) (hv : v.Happens d n r e)
      (hg : v.GoesOn d)
      (rest : Walks d (n.id :: seen) (queue ++ v.queued d (n.id :: seen)) v.outcome (v.left d)
        vs ending r' e') :
      Walks d seen (n :: queue) r e (v :: vs) ending r' e'
  | stop {seen n queue r e v f} (h : n.id ∉ seen) (hv : v.Happens d n r e)
      (hf : v.result.fault? = some f) (hp : d.errorHandling = .stop) :
      Walks d seen (n :: queue) r e [v] (.stopped (stopError f)) v.outcome (v.left d)
  | raise {seen n queue r e f e'} (h : n.id ∉ seen)
      (hx : (execute d n r).perform e = (.error f, e')) :
      Walks d seen (n :: queue) r e [] (.raised n f) r e'

variable {d : Definition} {n : Node} {r r' : Run} {e e' : Engine} {v : Visit} {f : NodeFault}
  {seen : List String} {queue : List Node} {vs : List Visit} {ending : Ending}

/-! ### Visits -/

lemma execute_of_happens (hv : v.Happens d n r e) :
    (execute d n r).perform e = (.ok (v.result, v.outcome), v.settled) := by
  obtain ⟨rfl, rfl, rfl, hx, hr⟩ := hv
  unfold execute
  rw [perform_bind_of_ok (perform_now _), perform_bind_of_ok hx,
    perform_bind_of_ok (perform_now _)]
  exact perform_bind_of_ok hr

/-- What a node does to a run: a visit, or a failure outside of its result. -/
def meet (d : Definition) (n : Node) (r : Run) (e : Engine) : Except (Failure × Engine) Visit :=
  match (n.execute d.flow r.scope).perform e with
  | (.error f, e') => .error (f, e')
  | (.ok result, after) =>
    let v (settled : Engine) : Visit := ⟨n, r, e, result, after, settled⟩
    match (recordProgress (v after).outcome).perform after with
    | (.error f, e') => .error (f, e')
    | (.ok (), settled) => .ok (v settled)

lemma happens_of_meet (h : meet d n r e = .ok v) : v.Happens d n r e := by
  unfold meet at h
  split at h
  · cases h
  · rename_i hx
    dsimp only at h
    split at h
    · cases h
    · rename_i hr
      cases h
      exact ⟨rfl, rfl, rfl, hx, hr⟩

lemma raises_of_meet {g : Failure} (h : meet d n r e = .error (g, e')) :
    (execute d n r).perform e = (.error g, e') := by
  unfold meet at h
  unfold execute
  rw [perform_bind_of_ok (perform_now _)]
  split at h
  · rename_i hx
    cases h
    exact perform_bind_of_error hx
  · rename_i hx
    rw [perform_bind_of_ok hx, perform_bind_of_ok (perform_now _)]
    dsimp only at h
    split at h
    · rename_i hr
      cases h
      exact perform_bind_of_error hr
    · cases h

/-- A node either is visited or fails outside of its result. -/
lemma happens_or_raises (d : Definition) (n : Node) (r : Run) (e : Engine) :
    (∃ v : Visit, v.Happens d n r e) ∨
      ∃ f e', (execute d n r).perform e = (.error f, e') := by
  rcases hm : meet d n r e with ⟨f, e'⟩ | v
  · exact Or.inr ⟨f, e', raises_of_meet hm⟩
  · exact Or.inl ⟨v, happens_of_meet hm⟩

lemma happens_self (hv : v.Happens d n r e) : v.Happens d v.node v.run v.before := by
  obtain ⟨rfl, rfl, rfl, hx, hr⟩ := hv
  exact ⟨rfl, rfl, rfl, hx, hr⟩

lemma happens_unique {w : Visit} (hv : v.Happens d n r e) (hw : w.Happens d n r e) : v = w := by
  obtain ⟨vn, vr, vb, vres, va, vset⟩ := v
  obtain ⟨wn, wr, wb, wres, wa, wset⟩ := w
  obtain ⟨rfl, rfl, rfl, hvx, hvr⟩ := hv
  obtain ⟨rfl, rfl, rfl, hwx, hwr⟩ := hw
  rw [hvx] at hwx
  cases hwx
  have hs : ((Except.ok (), vset) : Except Failure Unit × Engine) = (.ok (), wset) :=
    hvr.symm.trans hwr
  cases hs
  rfl

lemma not_raises_of_happens (hv : v.Happens d n r e) (g : Failure) :
    (execute d n r).perform e ≠ (.error g, e') := by
  rw [execute_of_happens hv]
  simp

lemma proceed_of_goesOn (hg : v.GoesOn d) :
    (proceed d v.node v.result).perform v.settled = (.ok (.ok (v.next d)), v.left d) := by
  unfold Visit.left proceed
  dsimp only
  rcases hf : v.result.fault? with _ | f
  · rfl
  · dsimp only
    rw [if_neg fun hp => by rw [hg hp] at hf; cases hf]
    rfl

lemma proceed_of_stop (hf : v.result.fault? = some f) (hp : d.errorHandling = .stop) :
    (proceed d v.node v.result).perform v.settled = (.ok (.error (stopError f)), v.left d) := by
  unfold Visit.left proceed
  dsimp only
  rw [hf]
  dsimp only
  rw [if_pos hp]
  rfl

lemma left_cases (d : Definition) (v : Visit) :
    v.left d = v.settled ∨ ∃ level event, v.left d = v.settled.noting level event := by
  unfold Visit.left proceed
  dsimp only
  rcases v.result.fault? with _ | f
  · exact Or.inl rfl
  · dsimp only
    split
    · exact Or.inr ⟨_, _, rfl⟩
    · exact Or.inr ⟨_, _, rfl⟩

lemma store_left (d : Definition) (v : Visit) : (v.left d).store = v.settled.store := by
  rcases left_cases d v with h | ⟨level, event, h⟩
  · rw [h]
  · rw [h, Engine.store_noting]

lemma mail_left (d : Definition) (v : Visit) : (v.left d).mail = v.settled.mail := by
  rcases left_cases d v with h | ⟨level, event, h⟩
  · rw [h]
  · rw [h, Engine.mail_noting]

lemma settings_left (d : Definition) (v : Visit) :
    (v.left d).settings = v.settled.settings := by
  rcases left_cases d v with h | ⟨level, event, h⟩
  · rw [h]
  · rw [h]
    rfl

/-! ### The walk -/

def unseen (d : Definition) (seen : List String) : List Node :=
  d.flow.nodes.filter fun n => n.id ∉ seen

lemma awaits_unseen (hn : n ∈ d.flow.nodes) (seen : List String) :
    Flow.awaits (unseen d seen) n.id = decide (n.id ∉ seen) := by
  rw [Bool.eq_iff_iff, decide_eq_true_iff]
  unfold Flow.awaits unseen
  rw [List.any_eq_true]
  constructor
  · rintro ⟨m, hm, hid⟩
    have hm := (List.mem_filter.mp hm).2
    rw [decide_eq_true_iff, eq_of_beq hid] at hm
    exact hm
  · intro h
    exact ⟨n, List.mem_filter.mpr ⟨hn, decide_eq_true h⟩, beq_self_eq_true _⟩

lemma without_unseen (d : Definition) (seen : List String) (id : String) :
    Flow.without (unseen d seen) id = unseen d (id :: seen) := by
  unfold Flow.without unseen
  rw [List.filter_filter]
  refine List.filter_congr fun m _ => ?_
  rw [Bool.eq_iff_iff]
  simp [not_or]

lemma queued_eq (d : Definition) (seen : List String) (v : Visit) :
    (v.next d).filter (fun m => Flow.awaits (unseen d seen) m.id) = v.queued d seen :=
  List.filter_congr fun _ hm => awaits_unseen (Flow.mem_nodesWithIds.mp hm).1 seen

lemma queue_subset (hq : ∀ m ∈ n :: queue, m ∈ d.flow.nodes) (seen : List String) (v : Visit) :
    ∀ m ∈ queue ++ v.queued d seen, m ∈ d.flow.nodes := by
  intro m hm
  rcases List.mem_append.mp hm with hm | hm
  · exact hq m (List.mem_cons_of_mem _ hm)
  · exact (Flow.mem_nodesWithIds.mp (List.mem_filter.mp hm).1).1

section Steps

variable {m : Type → Type} [Monad m] {ε : Type} (look : Node → m (Except ε (List Node)))

lemma walk_pass (h : n.id ∈ seen) (hn : n ∈ d.flow.nodes) :
    Flow.walk look (unseen d seen) (n :: queue) = Flow.walk look (unseen d seen) queue := by
  rw [Flow.walk, if_neg]
  rw [awaits_unseen hn, decide_eq_true_iff]
  exact fun hs => hs h

lemma walk_unseen (h : n.id ∉ seen) (hn : n ∈ d.flow.nodes) :
    Flow.walk look (unseen d seen) (n :: queue) = (do
      match ← look n with
      | .error e => pure (some e)
      | .ok next =>
        Flow.walk look (unseen d (n.id :: seen)) (queue ++ next.filter fun m =>
          Flow.awaits (unseen d (n.id :: seen)) m.id)) := by
  have hawaits : Flow.awaits (unseen d seen) n.id = true := by
    rw [awaits_unseen hn, decide_eq_true_iff]
    exact h
  rw [Flow.walk, if_pos hawaits]
  refine bind_congr fun x => ?_
  rcases x with e | next
  · rfl
  · exact congrArg (fun ns => Flow.walk look ns (queue ++ next.filter fun m =>
      Flow.awaits ns m.id)) (without_unseen d seen n.id)

end Steps

/-- What the walk of a run does at a node that is not seen yet. -/
lemma walk_visit (h : n.id ∉ seen) (hn : n ∈ d.flow.nodes) (r : Run) :
    (Flow.walk (visit d) (unseen d seen) (n :: queue)).run r = (do
      let (result, r) ← execute d n r
      match ← proceed d n result with
      | .error e => pure (some e, r)
      | .ok next =>
        (Flow.walk (visit d) (unseen d (n.id :: seen)) (queue ++ next.filter fun m =>
          Flow.awaits (unseen d (n.id :: seen)) m.id)).run r) := by
  rw [walk_unseen _ h hn, StateT.run_bind]
  show (execute d n r >>= fun p => proceed d n p.1 >>= fun x => pure (x, p.2)) >>= _ = _
  simp only [bind_assoc, pure_bind]
  refine congrArg _ (funext fun p => congrArg _ (funext fun x => ?_))
  rcases x with e | next
  · rfl
  · rfl

/-- What is related to a start by a walk is what the program does. -/
theorem walk_of_walks (hw : Walks d seen queue r e vs ending r' e')
    (hq : ∀ m ∈ queue, m ∈ d.flow.nodes) :
    ((Flow.walk (visit d) (unseen d seen) queue).run r).perform e = (ending.outcome r', e') := by
  -- along the walk: the program holds the unseen nodes, and the queue stays inside the flow
  induction hw with
  | done => rw [Flow.walk]; rfl
  | pass h _ ih =>
    rw [walk_pass _ h (hq _ List.mem_cons_self)]
    exact ih fun m hm => hq m (List.mem_cons_of_mem _ hm)
  | @visit seen n queue r e v vs ending r' e' h hv hg _ ih =>
    have hp := proceed_of_goesOn hg
    rw [hv.node] at hp
    rw [walk_visit h (hq n List.mem_cons_self), perform_bind_of_ok (execute_of_happens hv),
      perform_bind_of_ok hp]
    dsimp only
    rw [queued_eq]
    exact ih (queue_subset hq _ v)
  | @stop seen n queue r e v f h hv hf hs =>
    have hp := proceed_of_stop hf hs
    rw [hv.node] at hp
    rw [walk_visit h (hq n List.mem_cons_self), perform_bind_of_ok (execute_of_happens hv),
      perform_bind_of_ok hp]
    rfl
  | @raise seen n queue r e f e' h hx =>
    rw [walk_visit h (hq n List.mem_cons_self), perform_bind_of_error hx]
    rfl

lemma length_unseen_lt (h : n.id ∉ seen) (hn : n ∈ d.flow.nodes) :
    (unseen d (n.id :: seen)).length < (unseen d seen).length := by
  rw [← without_unseen]
  refine Flow.length_without_lt ?_
  rw [awaits_unseen hn, decide_eq_true_iff]
  exact h

/-- Every walk ends: a visit leaves fewer nodes unseen, and what does not visit shortens the
queue. -/
theorem exists_walks (d : Definition) : ∀ (seen : List String) (queue : List Node) (r : Run)
    (e : Engine), (∀ m ∈ queue, m ∈ d.flow.nodes) →
      ∃ vs ending r' e', Walks d seen queue r e vs ending r' e'
  | _, [], _, _, _ => ⟨_, _, _, _, .done⟩
  | seen, n :: queue, r, e, hq => by
    by_cases h : n.id ∈ seen
    · obtain ⟨vs, ending, r', e', hw⟩ := exists_walks d seen queue r e
        fun m hm => hq m (List.mem_cons_of_mem _ hm)
      exact ⟨vs, ending, r', e', .pass h hw⟩
    · rcases happens_or_raises d n r e with ⟨v, hv⟩ | ⟨f, e', hx⟩
      · by_cases hg : v.GoesOn d
        · have hlt := length_unseen_lt h (hq n List.mem_cons_self)
          obtain ⟨vs, ending, r', e', hw⟩ := exists_walks d (n.id :: seen)
            (queue ++ v.queued d (n.id :: seen)) v.outcome (v.left d) (queue_subset hq _ v)
          exact ⟨v :: vs, ending, r', e', .visit h hv hg hw⟩
        · obtain ⟨hp, hf⟩ := Classical.not_imp.mp hg
          obtain ⟨f, hf⟩ := Option.ne_none_iff_exists'.mp hf
          exact ⟨[v], _, _, _, .stop h hv hf hp⟩
      · exact ⟨[], _, r, e', .raise h hx⟩
termination_by seen queue => ((unseen d seen).length, queue.length)
decreasing_by
  · exact Prod.Lex.right _ (by simp)
  · exact Prod.Lex.left _ _ hlt

/-- A start has one walk only. -/
theorem walks_unique {vs₁ vs₂ : List Visit} {ending₁ ending₂ : Ending} {r₁ r₂ : Run}
    {e₁ e₂ : Engine} (h₁ : Walks d seen queue r e vs₁ ending₁ r₁ e₁)
    (h₂ : Walks d seen queue r e vs₂ ending₂ r₂ e₂) :
    vs₁ = vs₂ ∧ ending₁ = ending₂ ∧ r₁ = r₂ ∧ e₁ = e₂ := by
  induction h₁ generalizing vs₂ with
  | done =>
    cases h₂
    exact ⟨rfl, rfl, rfl, rfl⟩
  | pass h _ ih =>
    cases h₂ with
    | pass _ rest => exact ih rest
    | visit h' | stop h' | raise h' => exact absurd h h'
  | visit h hv hg _ ih =>
    cases h₂ with
    | pass h' => exact absurd h' h
    | visit _ hv' _ rest =>
      cases happens_unique hv hv'
      obtain ⟨rfl, rfl, rfl, rfl⟩ := ih rest
      exact ⟨rfl, rfl, rfl, rfl⟩
    | stop _ hv' hf hp =>
      cases happens_unique hv hv'
      rw [hg hp] at hf
      cases hf
    | raise _ hx => exact absurd hx (not_raises_of_happens hv _)
  | stop h hv hf hp =>
    cases h₂ with
    | pass h' => exact absurd h' h
    | visit _ hv' hg =>
      cases happens_unique hv hv'
      rw [hg hp] at hf
      cases hf
    | stop _ hv' hf' =>
      cases happens_unique hv hv'
      rw [hf] at hf'
      cases hf'
      exact ⟨rfl, rfl, rfl, rfl⟩
    | raise _ hx => exact absurd hx (not_raises_of_happens hv _)
  | raise h hx =>
    cases h₂ with
    | pass h' => exact absurd h' h
    | visit _ hv | stop _ hv => exact absurd hx (not_raises_of_happens hv _)
    | raise _ hx' =>
      rw [hx] at hx'
      cases hx'
      exact ⟨rfl, rfl, rfl, rfl⟩

lemma fault_of_stopped {error : Value} (hw : Walks d seen queue r e vs ending r' e')
    (he : ending = .stopped error) :
    d.errorHandling = .stop ∧
      ∃ v ∈ vs, ∃ f, v.result.fault? = some f ∧ error = stopError f := by
  induction hw with
  | done | raise => cases he
  | pass _ _ ih => exact ih he
  | visit _ _ _ _ ih =>
    obtain ⟨hp, v, hv, h⟩ := ih he
    exact ⟨hp, v, List.mem_cons_of_mem _ hv, h⟩
  | stop _ _ hf hp =>
    cases he
    exact ⟨hp, _, List.mem_cons_self, _, hf, rfl⟩

/-! ### Walks, computed -/

/-- The walk in at most so many steps. -/
def observe (d : Definition) : ℕ → List String → List Node → Run → Engine →
    Option (List Visit × Ending × Run × Engine)
  | 0, _, _, _, _ => none
  | _ + 1, _, [], r, e => some ([], .finished, r, e)
  | steps + 1, seen, n :: queue, r, e =>
    if n.id ∈ seen then observe d steps seen queue r e
    else match meet d n r e with
    | .error (f, e') => some ([], .raised n f, r, e')
    | .ok v =>
      match v.result.fault?, d.errorHandling with
      | some f, .stop => some ([v], .stopped (stopError f), v.outcome, v.left d)
      | _, _ =>
        (observe d steps (n.id :: seen) (queue ++ v.queued d (n.id :: seen)) v.outcome
          (v.left d)).map fun (vs, rest) => (v :: vs, rest)

lemma walks_of_observe {steps : ℕ}
    (h : observe d steps seen queue r e = some (vs, ending, r', e')) :
    Walks d seen queue r e vs ending r' e' := by
  induction steps generalizing seen queue r e vs with
  | zero => cases h
  | succ steps ih =>
    rcases queue with _ | ⟨n, queue⟩
    · cases h
      exact .done
    · unfold observe at h
      split at h
      · rename_i hn
        exact .pass hn (ih h)
      · rename_i hn
        split at h
        · rename_i hm
          cases h
          exact .raise hn (raises_of_meet hm)
        · rename_i v hm
          have hv := happens_of_meet hm
          split at h
          · rename_i f hf hp
            cases h
            exact .stop hn hv hf hp
          · rename_i hno
            obtain ⟨⟨ws, rest⟩, hw, he⟩ := Option.map_eq_some_iff.mp h
            cases he
            refine .visit hn hv (fun hp => ?_) (ih hw)
            rcases hf : v.result.fault? with _ | f
            · rfl
            · exact absurd hp (hno f hf)

/-! ### The run that a walk leaves -/

lemma id_push (r : Run) (s : Step) : (r.push s).id = r.id := by
  unfold push Run.id NodeResult.settle
  dsimp only
  split
  · rfl
  · rfl

lemma id_outcome (hv : v.Happens d n r e) : v.outcome.id = r.id := by
  rw [← hv.run]
  exact id_push _ _

lemma id_of_walks (hw : Walks d seen queue r e vs ending r' e') : r'.id = r.id := by
  induction hw with
  | done | raise => rfl
  | pass _ _ ih => exact ih
  | visit _ hv _ _ ih => rw [ih, id_outcome hv]
  | stop _ hv => exact id_outcome hv

lemma happens_of_mem (hw : Walks d seen queue r e vs ending r' e') :
    ∀ v ∈ vs, v.Happens d v.node v.run v.before := by
  induction hw with
  | done | raise => simp
  | pass _ _ ih => exact ih
  | visit _ hv _ _ ih => exact List.forall_mem_cons.mpr ⟨happens_self hv, ih⟩
  | stop _ hv => exact List.forall_mem_cons.mpr ⟨happens_self hv, by simp⟩

lemma steps_of_walks (hw : Walks d seen queue r e vs ending r' e') :
    r'.steps = r.steps ++ vs.map Visit.step := by
  induction hw with
  | done | raise => simp
  | pass _ _ ih => exact ih
  | @visit _ _ _ r _ v vs _ _ _ _ hv _ _ ih =>
    have ho : v.outcome.steps = r.steps ++ [v.step] := by rw [← hv.run]; rfl
    rw [ih, ho]
    simp
  | @stop _ _ _ r _ v _ _ hv =>
    have ho : v.outcome.steps = r.steps ++ [v.step] := by rw [← hv.run]; rfl
    rw [ho]
    rfl

end Run

end CrmAutomation
