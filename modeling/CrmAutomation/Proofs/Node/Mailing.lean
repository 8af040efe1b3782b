import CrmAutomation.Proofs.Node.Effect

/-!
What a node posts.

A mail node writes a letter: its recipient, its subject and its body, with their tokens expanded. It
posts the letter once, as soon as it has all three texts, and is done if the proxy accepts it. A
mail node without a letter posts nothing and fails, and nodes of other kinds leave the mailbox
alone.
-/

namespace CrmAutomation

open EngineM Record

lemma EngineM.mail_of_does {α : Type} {Q : α → Prop} {x : EngineM α}
    (h : ∀ K, Lockstep (fun _ _ => True) K → Does K Q x) (e : Engine) :
    (x.perform e).2.mail = e.mail := by
  have hlock : Lockstep (fun _ _ => True) fun e' k => e' = k ∧ e'.mail = e.mail :=
    lockstep_self (fun _ _ h => h) (fun _ _ h => h) (fun _ _ _ _ _ h => h)
      (fun _ _ _ _ _ h => h) fun _ _ _ _ h => h
  obtain ⟨r, e', k', he, -, -, hm⟩ := (h _ hlock).meets ⟨rfl, rfl⟩
  rw [he]
  exact hm

lemma frame_settings : Frame (fun _ => True) fun e e' => e'.settings = e.settings where
  refl _ := rfl
  trans _ _ _ h₁ h₂ := h₂.trans h₁
  journal _ _ := rfl
  clock _ _ := rfl
  mail _ _ := rfl
  insert _ _ _ _ _ := rfl
  update _ _ _ _ _ := rfl
  select _ _ _ := rfl

/-! ### The sender -/

/-- The name of the company, wherever the store has one, can be sent. Every text can. -/
def Store.NamesCompany (s : Store) : Prop :=
  ∀ row ∈ s.rows companyTable, Mail.isSendable (row.get "company_name") = true

instance (s : Store) : Decidable s.NamesCompany :=
  inferInstanceAs (Decidable (∀ row ∈ s.rows companyTable,
    Mail.isSendable (row.get "company_name") = true))

/-- Messages can be posted to an address that the settings name. -/
structure Settings.Reaches (s : Settings) (url : Url) : Prop where
  address : Mail.address s = .ok url
  host : url.hostFault? = none
  absolute : url.isAbsolute = true

namespace Mail

variable {e : Engine} {url : Url} {reply : Reply}

lemma isSendable_orElse {v w : Value} (hv : isSendable v = true) (hw : isSendable w = true) :
    isSendable (v.orElse w) = true := by
  unfold Value.orElse
  split
  · exact hv
  · exact hw

lemma senderName_yields (hs : e.store.Orderly) (hn : e.store.NamesCompany) :
    ∃ sender k, senderName.perform e = (.ok sender, k) ∧ isSendable sender = true ∧
      k.settings = e.settings ∧ k.mail = e.mail := by
  have hmail : (senderName.perform e).2.mail = e.mail :=
    mail_of_does (fun K hK => does_senderName hK trivial) e
  have hsettings : (senderName.perform e).2.settings = e.settings :=
    frame_settings.keeps e (does_senderName (frame_settings.lockstep e) (Or.inr trivial))
  suffices h : ∃ sender, (senderName.perform e).1 = .ok sender ∧ isSendable sender = true by
    obtain ⟨sender, hok, hsend⟩ := h
    exact ⟨sender, _, Prod.ext hok rfl, hsend, hsettings, hmail⟩
  unfold senderName
  rw [perform_bind_of_ok (show engine.perform e = (.ok e, e) from rfl)]
  dsimp only
  split
  · have hlook := onStorageFault_stored (·.select companyTable { limit := some 1 }) (y := pure)
      (fun rows k => ⟨rows, k, rfl⟩) (fun _ => do
        log .warning "Company settings lookup failed"
        pure []) e
    rw [bind_pure] at hlook
    rw [perform_bind, select, hlook]
    rcases ho : e.store.select companyTable { limit := some 1 } with ⟨r | rows, s⟩
    · obtain ⟨f, rfl⟩ := Store.fault_of_select_error hs ho
      exact ⟨_, rfl, rfl⟩
    · rcases rows with _ | ⟨row, rows⟩
      · exact ⟨_, rfl, rfl⟩
      · have hrow := (Store.mem_of_select ho List.mem_cons_self).1
        exact ⟨_, rfl, isSendable_orElse (hn row hrow) rfl⟩
  · exact ⟨_, rfl, rfl⟩

/-! ### The reply -/

/-- The body of a reply says that the message was not delivered. -/
def refuses : Value → Bool
  | .object fs => Fields.get fs "success" == .bool false
  | _ => false

/-- The proxy accepts a message if it replies with a status of success and does not say
otherwise. -/
def Reply.accepts : Reply → Bool
  | .answer status body => isSuccess status && !refuses body.value
  | .breakdown _ => false

lemma readBody_error_iff {body : Value} :
    (∃ f, readBody body = .error f) ↔ refuses body = true := by
  unfold readBody refuses
  split
  · split <;> simp_all
  · simp

lemma readReply_ok_iff (ha : url.isAbsolute = true) :
    (∃ id, ((readReply url reply).perform e).1 = .ok id) ↔ reply.accepts = true := by
  cases reply with
  | breakdown b => cases b <;> simp [readReply, notDelivered, Reply.accepts, perform_bind]
  | answer status body =>
    simp only [readReply, ha, if_true, Reply.accepts, Bool.and_eq_true, Bool.not_eq_true']
    unfold judge
    split
    · rename_i hstatus
      rcases hr : readBody body.value with f | id
      · have hrefuses := readBody_error_iff.mp ⟨f, hr⟩
        simp [notDelivered, perform_bind, hrefuses]
      · have hrefuses : refuses body.value = false :=
          Bool.eq_false_iff.mpr fun h => by
            obtain ⟨f, hf⟩ := readBody_error_iff.mpr h
            rw [hr] at hf
            cases hf
        simp only [hrefuses, hstatus, and_self, iff_true]
        exact ⟨id, rfl⟩
    · rename_i hstatus
      simp [notDelivered, perform_bind, hstatus]

lemma mail_readReply (url : Url) (reply : Reply) (e : Engine) :
    ((readReply url reply).perform e).2.mail = e.mail :=
  mail_of_does (fun _ hK => does_readReply hK url reply) e

/-! ### The letter -/

/-- The texts of a message. -/
structure Letter where
  recipient : String
  subject : String
  body : String
  deriving DecidableEq

/-- The letter on its way to the proxy. -/
def Letter.post (l : Letter) (url : Url) (sender : Value) : Post :=
  ⟨url.text, .text l.recipient, .text l.subject, htmlBody l.body, sender⟩

lemma perform_send (hs : e.store.Orderly) (hn : e.store.NamesCompany)
    (hu : e.settings.Reaches url) (l : Letter) :
    ∃ sender k, k.mail = (e.mail.post (l.post url sender)).2 ∧
      (send (.text l.recipient) (.text l.subject) (.text l.body)).perform e =
        (readReply url (e.mail.post (l.post url sender)).1).perform k := by
  obtain ⟨sender, k, hsender, hsend, hsettings, hmail⟩ := senderName_yields hs hn
  refine ⟨sender, { k with mail := (k.mail.post (l.post url sender)).2 }, by rw [hmail], ?_⟩
  have htext : (ofExcept (fun _ => .malformed .messageBody) (bodyText (.text l.body))).perform e =
      (.ok l.body, e) := rfl
  have hurl : (ofExcept .address (address k.settings)).perform k = (.ok url, k) :=
    perform_ofExcept_ok.mpr ⟨by rw [hsettings, hu.address], rfl⟩
  unfold send
  rw [perform_bind_of_ok htext, perform_bind_of_ok hsender,
    perform_bind_of_ok (show settings.perform k = (.ok k.settings, k) from rfl),
    perform_bind_of_ok hurl, if_pos (by simp [isSendable, hsend]), hu.host, ← hmail]
  rfl

end Mail

namespace Node

/-- The parameters of a mail node. -/
def email? (node : Node) : Option EmailParams :=
  match node.params? with
  | some (.sendEmail p) => some p
  | _ => none

/-- Whom a mail node writes to and about what. There must be a recipient and a subject. -/
def EmailParams.heading? (p : EmailParams) (scope : Scope) : Option (String × String) :=
  match Template.expand scope.value p.recipient, Template.expand scope.value p.subject with
  | .ok recipient, .ok subject =>
    if recipient.isEmpty || subject.isEmpty then none else some (recipient, subject)
  | _, _ => none

/-- The letter that a mail node writes; its body has to be expanded, too. -/
def EmailParams.letter? (p : EmailParams) (scope : Scope) : Option Mail.Letter :=
  match p.heading? scope, Template.expand scope.value p.body with
  | some (recipient, subject), .ok body => some ⟨recipient, subject, body⟩
  | _, _ => none

def letter? (node : Node) (scope : Scope) : Option Mail.Letter :=
  node.email?.bind (·.letter? scope)

variable {e e' : Engine} {url : Url} {p : EmailParams} {scope : Scope} {l : Mail.Letter}
  {node : Node} {flow : Flow} {r : NodeResult}

lemma letter?_eq_some (h : p.letter? scope = some l) :
    Template.expand scope.value p.recipient = .ok l.recipient ∧
      Template.expand scope.value p.subject = .ok l.subject ∧
      Template.expand scope.value p.body = .ok l.body ∧
      (l.recipient.isEmpty || l.subject.isEmpty) = false := by
  unfold EmailParams.letter? EmailParams.heading? at h
  grind

lemma email?_eq_some (h : node.email? = some p) : node.params? = some (.sendEmail p) := by
  unfold email? at h
  split at h
  · rename_i q hq
    cases h
    exact hq
  · cases h

/-- What a mail node does once it has its texts. -/
def deliver (l : Mail.Letter) : EngineM NodeResult :=
  let report (sent : Bool) : Fields :=
    [("sent", .bool sent), ("to", .text l.recipient), ("subject", .text l.subject)]
  let delivered := do
    let id ← Mail.send (.text l.recipient) (.text l.subject) (.text l.body)
    pure (NodeResult.done (report true ++ ([("message_id", id)] : Fields)))
  delivered.onDeliveryFault fun f => pure (.failed (.failure (.delivery f)) (report false))

lemma perform_runEmail (hrecipient : Template.expand scope.value p.recipient = .ok l.recipient)
    (hsubject : Template.expand scope.value p.subject = .ok l.subject)
    (hbody : Template.expand scope.value p.body = .ok l.body) (e : Engine) :
    (runEmail p scope).perform e =
      if l.recipient.isEmpty || l.subject.isEmpty then (.ok (.failed .emailIncomplete), e)
      else (deliver l).perform e := by
  have hexpand : ∀ {template text}, Template.expand scope.value template = .ok text →
      (scope.expand template).perform e = (.ok text, e) := fun h => perform_ofExcept_ok.mpr ⟨h, rfl⟩
  unfold runEmail
  rw [perform_bind_of_ok (hexpand hrecipient), perform_bind_of_ok (hexpand hsubject),
    perform_bind_of_ok (hexpand hbody)]
  split
  · rfl
  · rfl

lemma deliver_posts (hs : e.store.Orderly) (hn : e.store.NamesCompany)
    (hu : e.settings.Reaches url) (l : Mail.Letter) :
    ∃ sender, ((deliver l).perform e).2.mail = (e.mail.post (l.post url sender)).2 ∧
      (Succeeds ((deliver l).perform e).1 ↔
        (e.mail.post (l.post url sender)).1.accepts = true) := by
  obtain ⟨sender, k, hk, hsend⟩ := Mail.perform_send hs hn hu l
  refine ⟨sender, ?_⟩
  rw [← hk, ← Mail.readReply_ok_iff hu.absolute,
    ← Mail.mail_readReply url (e.mail.post (l.post url sender)).1 k]
  unfold deliver
  rw [perform_onDeliveryFault, perform_bind, hsend]
  rcases (Mail.readReply url (e.mail.post (l.post url sender)).1).perform k with ⟨f | id, k'⟩
  · cases f with
    | delivery g => exact ⟨rfl, iff_of_false (not_succeeds_of_failed rfl) (by simp)⟩
    | storage | notification | definition | executionNotFound | retryLimit | crash =>
      exact ⟨rfl, iff_of_false (not_succeeds_error _) (by simp)⟩
  · exact ⟨rfl, iff_of_true ⟨_, rfl, rfl⟩ ⟨id, rfl⟩⟩

lemma runEmail_of_none (hl : p.letter? scope = none) (e : Engine) :
    ((runEmail p scope).perform e).2 = e ∧ ¬Succeeds ((runEmail p scope).perform e).1 := by
  rcases hrecipient : Template.expand scope.value p.recipient with f | recipient
  · unfold runEmail Scope.expand
    rw [hrecipient]
    exact ⟨rfl, not_succeeds_error _⟩
  rcases hsubject : Template.expand scope.value p.subject with f | subject
  · unfold runEmail Scope.expand
    rw [hrecipient, hsubject]
    exact ⟨rfl, not_succeeds_error _⟩
  rcases hbody : Template.expand scope.value p.body with f | body
  · unfold runEmail Scope.expand
    rw [hrecipient, hsubject, hbody]
    exact ⟨rfl, not_succeeds_error _⟩
  -- every text is there, so it is the recipient or the subject that is empty
  have hempty : (recipient.isEmpty || subject.isEmpty) = true := by
    unfold EmailParams.letter? EmailParams.heading? at hl
    rw [hrecipient, hsubject, hbody] at hl
    by_contra hno
    simp [hno] at hl
  rw [perform_runEmail (l := ⟨recipient, subject, body⟩) hrecipient hsubject hbody, if_pos hempty]
  exact ⟨rfl, not_succeeds_of_failed rfl⟩

/-! ### Nodes -/

lemma mail_execute (hno : node.email? = none) (flow : Flow) (scope : Scope) (e : Engine) :
    ((node.execute flow scope).perform e).2.mail = e.mail := by
  refine mail_of_does (fun K hK => does_execute hK node flow scope (fun q hq => ?_)
    fun _ _ => trivial) e
  unfold email? at hno
  rw [hq] at hno
  cases hno

lemma mail_of_email (hp : node.email? = some p) (flow : Flow) (scope : Scope) (e : Engine) :
    ((node.execute flow scope).perform e).2.mail = ((runEmail p scope).perform e).2.mail ∧
      (Succeeds ((node.execute flow scope).perform e).1 ↔
        Succeeds ((runEmail p scope).perform e).1) := by
  rw [perform_execute (email?_eq_some hp)]
  show _ ∧ (_ ↔ Succeeds ((work node flow scope (.sendEmail p)).perform e).1)
  rcases hw : (work node flow scope (.sendEmail p)).perform e with ⟨f | r, k⟩
  · rw [onFailure_of_error hw]
    exact ⟨by rw [show (runEmail p scope).perform e = _ from hw]; rfl,
      iff_of_false (not_succeeds_of_failed rfl) (not_succeeds_error f)⟩
  · rw [onFailure_of_ok hw]
    exact ⟨by rw [show (runEmail p scope).perform e = _ from hw], Iff.rfl⟩

lemma succeeds_ok : Succeeds (.ok r) ↔ r.succeeded = true := by
  simp [Succeeds]

/-- **A letter is posted once**, and its node is done exactly if the proxy accepts it. -/
theorem post_of_letter (hl : node.letter? scope = some l) (hs : e.store.Orderly)
    (hn : e.store.NamesCompany) (hu : e.settings.Reaches url)
    (h : (node.execute flow scope).perform e = (.ok r, e')) :
    ∃ sender, e'.mail = (e.mail.post (l.post url sender)).2 ∧
      (r.succeeded = true ↔ (e.mail.post (l.post url sender)).1.accepts = true) := by
  obtain ⟨p, hp, hlp⟩ := Option.bind_eq_some_iff.mp hl
  obtain ⟨hrecipient, hsubject, hbody, hfull⟩ := letter?_eq_some hlp
  obtain ⟨hmail, hdone⟩ := mail_of_email hp flow scope e
  rw [perform_runEmail hrecipient hsubject hbody, hfull, if_neg Bool.false_ne_true, h]
    at hmail hdone
  obtain ⟨sender, hpost, haccepts⟩ := deliver_posts hs hn hu l
  exact ⟨sender, hmail.trans hpost, succeeds_ok.symm.trans (hdone.trans haccepts)⟩

/-- A node without a letter posts nothing, and fails if it is a mail node. -/
theorem no_post (hl : node.letter? scope = none)
    (h : (node.execute flow scope).perform e = (.ok r, e')) :
    e'.mail = e.mail ∧ (node.email? ≠ none → r.succeeded = false) := by
  rcases hp : node.email? with _ | p
  · have hmail := mail_execute hp flow scope e
    rw [h] at hmail
    exact ⟨hmail, fun hno => absurd rfl hno⟩
  · have hlp : p.letter? scope = none := by rw [← hl, letter?, hp]; rfl
    obtain ⟨hmail, hdone⟩ := mail_of_email hp flow scope e
    obtain ⟨hsame, hfails⟩ := runEmail_of_none hlp e
    rw [h, hsame] at hmail
    rw [h, succeeds_ok] at hdone
    exact ⟨hmail, fun _ => Bool.eq_false_iff.mpr fun hr => hfails (hdone.mp hr)⟩

end Node

end CrmAutomation
