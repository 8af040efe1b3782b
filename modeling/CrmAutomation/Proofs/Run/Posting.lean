import CrmAutomation.Proofs.Node.Mailing
import CrmAutomation.Proofs.Run.Boundary

/-!
What a run posts.

A run posts only what its nodes write. Every node that has a letter posts it, in the order in which
the nodes are executed, and the reply decides what is recorded of the node.
-/

namespace CrmAutomation

open EngineM Record

namespace Mail

/-- `Exchanges m xs m'`: the posts are made on a mailbox, one after the other, and each meets with
the reply beside it. -/
inductive Exchanges : Mailbox → List (Post × Reply) → Mailbox → Prop
  | nil {m} : Exchanges m [] m
  | cons {m p xs m'} (rest : Exchanges (m.post p).2 xs m') :
      Exchanges m ((p, (m.post p).1) :: xs) m'

lemma posts_post (m : Mailbox) (p : Post) : (m.post p).2.posts = m.posts ++ [p] := by
  unfold Mailbox.post
  dsimp only
  split <;> rfl

lemma posts_of_exchanges {m m' : Mailbox} {xs : List (Post × Reply)} (h : Exchanges m xs m') :
    m'.posts = m.posts ++ xs.map Prod.fst := by
  induction h with
  | nil => simp
  | cons _ ih => rw [ih, posts_post, List.append_assoc]; rfl

lemma Exchanges.append {m m' m'' : Mailbox} {xs ys : List (Post × Reply)}
    (h : Exchanges m xs m') (h' : Exchanges m' ys m'') : Exchanges m (xs ++ ys) m'' := by
  induction h with
  | nil => exact h'
  | cons _ ih => exact .cons (ih h')

end Mail

namespace Run

open Mail

namespace Visit

/-- The letter that the node of the visit writes. -/
def letter? (v : Visit) : Option Letter := v.node.letter? v.run.scope

/-- The visit posts its letter, and its step says whether the proxy accepts it. -/
structure Sends (url : Url) (v : Visit) (x : Post × Reply) : Prop where
  post : ∃ l sender, v.letter? = some l ∧ x.1 = l.post url sender
  status : v.step.status = if x.2.accepts then .completed else .failed

end Visit

variable {d : Definition} {event payload retryCount : Value} {e e' : Engine} {n : Node}
  {r r' : Run} {v : Visit} {seen : List String} {queue : List Node} {vs : List Visit}
  {ending : Ending} {t : Trace} {url : Url} {result : RunResult}

/-! ### What leaves the mailbox alone -/

lemma mail_write (patch : Fields) (id event : String) (e : Engine) :
    ((write patch id event).perform e).2.mail = e.mail := by
  obtain ⟨journal, h⟩ := write_leaves patch id event e
  rw [h]

lemma mail_finalize (r : Run) (status : RunStatus) (error : Option Value) (e : Engine) :
    ((finalize r status error).perform e).2.mail = e.mail := by
  obtain ⟨journal, h⟩ := finalize_leaves r status error e
  rw [h]

lemma mail_launch (d : Definition) (event payload retryCount : Value) (e : Engine) :
    ((launch d event payload retryCount).perform e).2.mail = e.mail := by
  rcases hp : Payload.fields payload with f | given
  · rw [launch_of_unreadable hp]
  · rw [launch_of_fields hp]
    rcases e.store.insert e.clock executionsTable (startRow d event given retryCount e.clock)
      with ⟨(_ | _ | _) | _, s⟩
    iterate 4 rfl

lemma mail_settled (hv : v.Happens d n r e) : v.settled.mail = v.after.mail := by
  have hw := mail_write v.outcome.progressPatch v.outcome.id
    "Failed to record execution progress" v.after
  rwa [← recordProgress_eq, hv.recorded] at hw

/-! ### Walks -/

/-- The visits that post their letters, and what they exchange for them. -/
def Posts (url : Url) (m : Mailbox) (vs : List Visit) (m' : Mailbox) : Prop :=
  ∃ xs, Exchanges m xs m' ∧ List.Forall₂ (Visit.Sends url) (vs.filter (·.letter?.isSome)) xs

lemma Posts.append {m m' m'' : Mailbox} {ws : List Visit} (h : Posts url m vs m')
    (h' : Posts url m' ws m'') : Posts url m (vs ++ ws) m'' := by
  obtain ⟨xs, hxs, hvs⟩ := h
  obtain ⟨ys, hys, hws⟩ := h'
  refine ⟨xs ++ ys, hxs.append hys, ?_⟩
  rw [List.filter_append]
  exact List.rel_append hvs hws

lemma posts_of_happens (hv : v.Happens d n r e) (hs : e.store.Orderly)
    (hn : v.before.store.NamesCompany) (hu : e.settings.Reaches url) :
    Posts url e.mail [v] v.settled.mail := by
  rw [mail_settled hv]
  have hletter : v.letter? = n.letter? r.scope := by rw [Visit.letter?, hv.node, hv.run]
  rw [hv.before] at hn
  rcases hl : n.letter? r.scope with _ | l
  · rw [(Node.no_post hl hv.executed).1]
    exact ⟨[], .nil, by simp [hletter, hl]⟩
  · obtain ⟨sender, hmail, haccepts⟩ := Node.post_of_letter hl hs hn hu hv.executed
    rw [hmail]
    refine ⟨_, .cons .nil, ?_⟩
    rw [List.filter_singleton, hletter, hl]
    refine .cons ⟨⟨l, sender, hletter.trans hl, rfl⟩, ?_⟩ .nil
    rw [Bool.eq_iff_iff.mpr haccepts.symm]
    rfl

/-- What a walk posts is what its visits post, one after the other. -/
theorem posts_of_walks (hw : Walks d seen queue r e vs ending r' e') (hs : e.store.Orderly)
    (hn : ∀ v ∈ vs, v.before.store.NamesCompany) (hu : e.settings.Reaches url) :
    Posts url e.mail vs e'.mail := by
  -- along the walk the store stays orderly, and the settings stay what they are
  induction hw with
  | done => exact ⟨[], .nil, .nil⟩
  | pass _ _ ih => exact ih hs hn hu
  | @visit _ _ _ _ _ v vs _ _ _ _ hv _ _ ih =>
    rw [List.forall_mem_cons] at hn
    have hfirst := posts_of_happens hv hs hn.1 hu
    have hrest := ih (by rw [store_left]; exact keeps_of_happens frame_orderly hv hs) hn.2
      (by rw [settings_left, keeps_of_happens frame_settings hv]; exact hu)
    rw [mail_left] at hrest
    exact hfirst.append hrest
  | stop _ hv =>
    rw [mail_left]
    exact posts_of_happens hv hs (hn _ List.mem_cons_self) hu
  | raise _ hx =>
    rw [(unreadable_of_raises (hs.steady _) hx).2]
    exact ⟨[], .nil, .nil⟩

/-! ### Runs -/

lemma posts_of_ran (ht : Ran d event payload retryCount e t) (hs : e.store.Orderly)
    (hn : ∀ v ∈ t.visits, v.before.store.NamesCompany) (hu : e.settings.Reaches url) :
    Posts url e.mail t.visits t.walked.mail := by
  obtain ⟨given, row, s, -, hi, -, hmade⟩ := launch_made ht.launched
  have hinsert : (e.store.insert e.clock executionsTable
      (startRow d event given retryCount e.clock)).2.Orderly :=
    Store.plans_insert Store.lasting_orderly hs
  rw [hi] at hinsert
  have hbegun : t.begun.store = s ∧ t.begun.settings = e.settings ∧ t.begun.mail = e.mail := by
    unfold Trace.begun
    rw [hmade]
    exact ⟨rfl, rfl, rfl⟩
  have hw := posts_of_walks ht.walked (by rw [hbegun.1]; exact hinsert) hn
    (by rw [hbegun.2.1]; exact hu)
  rwa [hbegun.2.2] at hw

lemma failed_of_ran (ht : Ran d event payload retryCount e t) (hv : v ∈ t.visits)
    (hmail : v.node.email? ≠ none) (hl : v.letter? = none) : v.step.status = .failed := by
  have hx := (happens_of_mem ht.walked v hv).executed
  have hf : v.result.succeeded = false := (Node.no_post hl hx).2 hmail
  show (if v.result.succeeded then RunStatus.completed else .failed) = .failed
  rw [hf]
  rfl

/-- **What a run posts**: a run that returns has posted, besides what was posted before it, the
letters of its nodes, once each and in the order in which the nodes were executed. A step with a
letter is completed if the reply has a status of success and does not say that the message was not
delivered, and failed otherwise. To have a letter, a mail node needs a recipient, a subject and a
body that can be expanded; a mail node that has none posts nothing, and its step is failed. -/
theorem once_posts
    (h : (once d event payload retryCount).perform e = (.ok result, e')) (hs : e.store.Orderly)
    (hu : e.settings.Reaches url)
    (hn : ∀ t, Ran d event payload retryCount e t →
      ∀ v ∈ t.visits, v.before.store.NamesCompany) :
    ((∀ t, ¬Ran d event payload retryCount e t) ∧ e'.mail = e.mail) ∨
      ∃ t, Ran d event payload retryCount e t ∧
        (∃ xs, Exchanges e.mail xs e'.mail ∧
          e'.mail.posts = e.mail.posts ++ xs.map Prod.fst ∧
          List.Forall₂ (Visit.Sends url) (t.visits.filter (·.letter?.isSome)) xs) ∧
        ∀ v ∈ t.visits, v.node.email? ≠ none → v.letter? = none → v.step.status = .failed := by
  rcases once_ok_iff.mp h with ⟨f, k, hl, -, rfl⟩ | ⟨t, closed, ht, hr, -, rfl⟩
  · refine Or.inl ⟨fun t ht => ?_, ?_⟩
    · have hlaunch := ht.launched
      rw [hl] at hlaunch
      cases hlaunch
    · have hmail := mail_launch d event payload retryCount e
      rwa [hl] at hmail
  · refine Or.inr ⟨t, ht, ?_, fun v hv => failed_of_ran ht hv⟩
    obtain ⟨xs, hxs, hvs⟩ := posts_of_ran ht hs (hn t ht) hu
    have hclosed := mail_finalize t.last (t.status d) (t.error d) t.walked
    rw [hr.finalized] at hclosed
    rw [← hclosed] at hxs
    exact ⟨xs, hxs, Mail.posts_of_exchanges hxs, hvs⟩

/-- Three letters, of which the last has a body with a token that cannot be expanded. -/
def corresponding : Definition where
  id := "corresponding"
  errorHandling := .proceed
  flow := {
    nodes := [("a", "First"), ("b", "Second"), ("c", "{{deals.²}}")].map fun (id, body) =>
      { id, type := some "send_email"
        data := [("to", .text "ada@example.org"), ("subject", .text id), ("body", .text body)] }
    edges := [{ source := "a", target := "b" }, { source := "b", target := "c" }] }

/-- The proxy accepts the first message that it gets, and rejects the second. -/
def correspondingEngine : Engine where
  mail := { planned := [.answer 202 (.text "Accepted"), .answer 500 (.text "")] }

def proxyUrl : Url where
  scheme := "http".toList
  user := []
  host := "localhost".toList
  port := some 3001
  path := "/api/send-email".toList
  query := none
  fragment := none

def correspondingTrace : Trace :=
  (trace? 9 corresponding .null (.object [("deals", .list [.null])]) (.int 0)
    correspondingEngine).get (by decide +kernel)

theorem once_posts_corresponding :
    ∃ result e', (once corresponding .null (.object [("deals", .list [.null])]) (.int 0)).perform
        correspondingEngine = (.ok result, e') ∧
      correspondingEngine.store.Orderly ∧ correspondingEngine.settings.Reaches proxyUrl ∧
      (∃ xs, Exchanges correspondingEngine.mail xs e'.mail ∧
        List.Forall₂ (Visit.Sends proxyUrl)
          (correspondingTrace.visits.filter (·.letter?.isSome)) xs) ∧
      correspondingTrace.steps.map Step.status = [.completed, .failed, .failed] ∧
      e'.mail.posts.map Post.subject = [.text "a", .text "b"] := by
  have ht : Ran corresponding .null (.object [("deals", .list [.null])]) (.int 0)
      correspondingEngine correspondingTrace := ran_of_trace? (Option.some_get _).symm
  have hend : correspondingTrace.ending = .finished := by decide +kernel
  have hfinal : ((finalize correspondingTrace.last (correspondingTrace.status corresponding)
      (correspondingTrace.error corresponding)).perform correspondingTrace.walked).1 = .ok () := by
    decide +kernel
  have hr := once_of_returned ht ⟨by simp [hend], perform_of_fst hfinal⟩
  have hs : correspondingEngine.store.Orderly := by simp [correspondingEngine, Store.Orderly]
  have hu : correspondingEngine.settings.Reaches proxyUrl :=
    ⟨by decide +kernel, by decide +kernel, by decide⟩
  have hn : ∀ v ∈ correspondingTrace.visits, v.before.store.NamesCompany := by decide +kernel
  have hvisits : ∀ t, Ran corresponding .null (.object [("deals", .list [.null])]) (.int 0)
      correspondingEngine t → ∀ v ∈ t.visits, v.before.store.NamesCompany := fun t ht' => by
    rw [← ran_unique ht ht']
    exact hn
  rcases once_posts hr hs hu hvisits with ⟨hno, -⟩ | ⟨t, ht', ⟨xs, hxs, -, hvs⟩, -⟩
  · exact absurd ht (hno _)
  · rw [← ran_unique ht ht'] at hvs
    exact ⟨_, _, hr, hs, hu, ⟨xs, hxs, hvs⟩, by decide +kernel, by decide +kernel⟩

end Run

end CrmAutomation
