import Jobflow.Proofs.OrderedMap
import Jobflow.Proofs.Session.Faults
import Jobflow.Proofs.Session.Records
import Jobflow.Proofs.Session.Worker

/-!
# The course of a request

A request is sent by one client after the other: the first one, the one that the renewal after
the first rejection leaves, and so on. The course of a request names these senders, how one
follows from the other and how the last one ends the request. How many times the request is
sent, with which ids, and when the session counts as rejected is all part of it.

The senders are no device of the proof alone: besides logins, the requests on record are those
that the senders send, so that a course says what the server has seen.
-/

namespace Jobflow

namespace Draft

/-- The request that a client sends for a draft, with the id that its session has. -/
def sentBy (draft : Draft) (sender : Client) : Request :=
  draft.request sender.session sender.session.id

end Draft

/-- The id that a request carries in a place. -/
def Request.carried? (request : Request) : Placement → Option Value
  | .cookie => (request.cookies.getD []).lookup Draft.idCookie
  | .formField => (request.data.getD []).lookup Draft.idField
  | .nowhere => none

namespace Session

open Call

/-! ## Courses -/

/-- A client sends a draft and the server rejects its session, which leaves a client. -/
def RejectedInto (draft : Draft) (sender : Client) (reason : String) (after : Client) : Prop :=
  ∃ response : Response, send (draft.sentBy sender) sender = (.ok response, after) ∧
    response.rejection? = some reason

/-- The client that is left by a rejection, after the message that the id has expired. -/
def expiryNoted (sender after : Client) : Client := after.logged [expiredEntry sender.session.id]

/-- One sender follows another one. -/
inductive Renewed (draft : Draft) (sender next : Client) : Prop
  /-- The session of the first one is rejected, and it is renewed with the id that was sent. If
  that logs in, which it does unless the id differs from itself, the next sender has the id that
  the server issued. -/
  | intro {reason : String} {after : Client} (rejected : RejectedInto draft sender reason after)
    (renewal : renew sender.session.id (expiryNoted sender after) = (.ok (), next))
    (issued : sender.session.id.same sender.session.id = true →
      ∃ answer asked, loginAnswer sender.session.password sender.session.attempts.toNat
        (expiryNoted sender after) = (.ok answer, asked) ∧ idIn answer = .ok next.session.id)

/-- How the last sender ends a request whose session could be renewed a number of times more. -/
inductive Ends (draft : Draft) (sender : Client) : Nat → Except Fault Response → Client → Prop
  /-- The request is not answered. -/
  | unanswered {renewals : Nat} {fault : Fault} {after : Client}
    (sent : send (draft.sentBy sender) sender = (.error fault, after)) :
    Ends draft sender renewals (.error fault) after
  /-- The session is accepted and the status is no error. -/
  | accepted {renewals : Nat} {response : Response} {after : Client}
    (sent : send (draft.sentBy sender) sender = (.ok response, after))
    (accepted : response.rejection? = none) (fine : response.statusFault? = none) :
    Ends draft sender renewals (.ok response) after
  /-- The session is accepted and the status is an error, which is logged. -/
  | failed {renewals : Nat} {response : Response} {fault : Fault} {after : Client}
    (sent : send (draft.sentBy sender) sender = (.ok response, after))
    (accepted : response.rejection? = none) (status : response.statusFault? = some fault) :
    Ends draft sender renewals (.error fault)
      (after.noted .warning "HTTP %s from %s:\n%s"
        [.int response.status, .text (draft.url after.session), .text response.text])
  /-- The session is rejected and cannot be renewed any more. -/
  | rejected {reason : String} {after : Client}
    (rejected : RejectedInto draft sender reason after) :
    Ends draft sender 0 (.error (.sessionRejected reason)) after
  /-- The session is rejected and its renewal fails. -/
  | unrenewed {renewals : Nat} {reason : String} {fault : Fault} {after left : Client}
    (rejected : RejectedInto draft sender reason after)
    (failed : renew sender.session.id (expiryNoted sender after) = (.error fault, left)) :
    Ends draft sender (renewals + 1) (.error fault) left

/-- The first sender of a client's request, if there is one: the client itself, or the one that
has logged in. -/
inductive Begins (client : Client) : List Client → Except Fault Response → Client → Prop
  /-- The client has an id. -/
  | known {senders : List Client} {result : Except Fault Response} {left : Client}
    (known : client.session.id.truthy = true) : Begins client (client :: senders) result left
  /-- The client has none and logs in. -/
  | missing {first : Client} {senders : List Client} {result : Except Fault Response}
    {left : Client} (missing : client.session.id.truthy = false)
    (login : renew .null client = (.ok (), first)) : Begins client (first :: senders) result left
  /-- The client has none and fails to log in, which ends the request. -/
  | failed {fault : Fault} {left : Client} (missing : client.session.id.truthy = false)
    (failed : renew .null client = (.error fault, left)) : Begins client [] (.error fault) left

/-- The course of a client's request: who sends the draft, what that comes to and which client
is left. -/
structure Course (draft : Draft) (client : Client) (senders : List Client)
    (result : Except Fault Response) (left : Client) : Prop where
  /-- The draft is sent once more than the session may be renewed, at most. -/
  bounded : senders.length ≤ draft.retries.toNat + 1
  /-- These sendings are all that is on record besides logins and earlier requests. -/
  recorded : left.world.requests.filter (draft.isSource client.session) =
    client.world.requests.filter (draft.isSource client.session) ++ senders.map draft.sentBy
  /-- Each of them carries the id that the session has at that moment. -/
  carried : ∀ sender ∈ senders, draft.placement ≠ .nowhere →
    (draft.sentBy sender).carried? draft.placement = some sender.session.id
  /-- Without an id the session logs in first. -/
  begins : Begins client senders result left
  /-- Between two sendings the session is renewed once. -/
  renewed : senders.IsChain (Renewed draft)
  /-- The last sending ends the request. -/
  ends : ∀ sender ∈ senders.getLast?,
    Ends draft sender (draft.retries.toNat + 1 - senders.length) result left
  /-- The session counts as rejected exactly if all sendings that are permitted were made and
  rejected. -/
  rejected_iff : (∃ reason, result = .error (.sessionRejected reason)) ↔
    senders.length = draft.retries.toNat + 1 ∧
      ∀ sender ∈ senders, ∃ reason after, RejectedInto draft sender reason after
  /-- That the session has expired is not said to the outside. -/
  unexpired : ∀ fault, result = .error fault → fault.kind? ≠ some .sessionExpired

/-! ## Turns -/

/-- The turns of the senders of a draft, the first of which can renew the session a number of
times: each of them follows from the one before, and the last one ends the request. -/
inductive Turns (draft : Draft) : Nat → List Client → Except Fault Response → Client → Prop
  /-- The last turn. -/
  | last {renewals : Nat} {sender : Client} {result : Except Fault Response} {left : Client}
    (ends : Ends draft sender renewals result left) : Turns draft renewals [sender] result left
  /-- A turn that another one follows. -/
  | again {renewals : Nat} {sender next : Client} {senders : List Client}
    {result : Except Fault Response} {left : Client} (renewed : Renewed draft sender next)
    (later : Turns draft renewals (next :: senders) result left) :
    Turns draft (renewals + 1) (sender :: next :: senders) result left

section

variable {draft : Draft}

/-- An error status is ordinary trouble. -/
theorem isOrdinary_of_statusFault? {response : Response} {fault : Fault}
    (status : response.statusFault? = some fault) : fault.IsOrdinary := by
  rw [Response.statusFault?] at status
  split at status
  · cases status
  · obtain rfl := Option.some.inj status
    exact .transport ..

/-- Checking the status of an answer logs an error status. -/
theorem checkStatus_apply (response : Response) (client : Client) :
    checkStatus draft response client =
      match response.statusFault? with
      | none => (.ok response, client)
      | some fault => (.error fault, client.noted .warning "HTTP %s from %s:\n%s"
          [.int response.status, .text (draft.url client.session), .text response.text]) := by
  rw [checkStatus]
  cases response.statusFault? with
  | none => rfl
  | some fault =>
    dsimp only
    rw [bind_of_ok _ (session_apply client), bind_of_ok _ (log_apply _ _ _ client)]
    rfl

/-- After a rejection and a successful renewal another sender follows. -/
theorem Renewed.of_renew {sender after next : Client} {reason : String}
    (rejected : RejectedInto draft sender reason after)
    (renewal : renew sender.session.id (expiryNoted sender after) = (.ok (), next)) :
    Renewed draft sender next := by
  refine .intro rejected renewal fun same => ?_
  obtain ⟨response, sent, -⟩ := rejected
  have kept : (expiryNoted sender after).session = sender.session := by
    have within := frame_session.within_send (draft.sentBy sender) sender
    rw [sent] at within
    exact within
  have logged : (expiryNoted sender after).session.id.same sender.session.id = true := by
    rw [kept]
    exact same
  rw [renew_of_same _ _ logged, kept] at renewal
  obtain ⟨answer, asked, answered, taken⟩ := exists_of_bind_ok renewal
  exact ⟨answer, asked, answered, issued_of_takeId taken⟩

/-- Sending a draft ends with this sender, or it goes on with another one. -/
theorem sending_cases (draft : Draft) (renewals : Nat) (sender : Client) :
    Ends draft sender renewals (Stage.sending draft renewals sender).1
        (Stage.sending draft renewals sender).2 ∨
      ∃ left next, renewals = left + 1 ∧ Renewed draft sender next ∧
        Stage.sending draft renewals sender = Stage.sending draft left next := by
  rw [Stage.sending_eq]
  rcases sent : send (draft.sentBy sender) sender with ⟨fault | response, after⟩
  · have unsent : sendDraft draft sender = (.error fault, after) := by
      rw [sendDraft, bind_of_ok _ (session_apply sender)]
      exact bind_of_error _ sent
    rw [bind_of_error _ unsent]
    exact Or.inl (.unanswered sent)
  · have answered : sendDraft draft sender = (.ok (sender.session.id, response), after) := by
      rw [sendDraft, bind_of_ok _ (session_apply sender)]
      exact bind_of_ok _ sent
    rw [bind_of_ok _ answered]
    cases found : response.rejection? with
    | none =>
      simp only [Stage.rest, found]
      rw [checkStatus_apply]
      cases status : response.statusFault? with
      | none => exact Or.inl (.accepted sent found status)
      | some fault => exact Or.inl (.failed sent found status)
    | some reason =>
      have rejected : RejectedInto draft sender reason after := ⟨response, sent, found⟩
      simp only [Stage.rest, found]
      cases renewals with
      | zero => exact Or.inl (.rejected rejected)
      | succ left =>
        have noted : act (Action.log (some (expiredEntry sender.session.id))) after =
          (.ok (), expiryNoted sender after) := rfl
        dsimp only
        rw [bind_of_ok _ noted]
        rcases renewal : renew sender.session.id (expiryNoted sender after) with ⟨fault | ⟨⟩, next⟩
        · rw [bind_of_error _ renewal]
          exact Or.inl (.unrenewed rejected renewal)
        · rw [bind_of_ok _ renewal]
          exact Or.inr ⟨left, next, rfl, .of_renew rejected renewal, rfl⟩

/-- What sending a draft comes to takes some turns. -/
theorem exists_turns (draft : Draft) (renewals : Nat) (sender : Client) :
    ∃ senders, Turns draft renewals (sender :: senders)
      (Stage.sending draft renewals sender).1 (Stage.sending draft renewals sender).2 := by
  induction renewals generalizing sender with
  | zero =>
    rcases sending_cases draft 0 sender with ends | ⟨left, next, impossible, -, -⟩
    · exact ⟨[], .last ends⟩
    · cases impossible
  | succ renewals inductionHypothesis =>
    rcases sending_cases draft (renewals + 1) sender with ends | ⟨left, next, count, renewed, same⟩
    · exact ⟨[], .last ends⟩
    · obtain rfl : renewals = left := Nat.succ.inj count
      obtain ⟨senders, turns⟩ := inductionHypothesis next
      rw [same]
      exact ⟨next :: senders, .again renewed turns⟩

/-! ## What a turn puts on record -/

/-- What a client sends for a draft counts as such for every session with its URL. -/
theorem isSource_sentBy (draft : Draft) {sender : Client} {session : Session}
    (url : sender.session.url = session.url) :
    draft.isSource session (draft.sentBy sender) = true := by
  have sent : (draft.sentBy sender).url = draft.url sender.session := by
    rw [Draft.sentBy, Draft.request]
    cases draft.placement <;> rfl
  rw [Draft.isSource, sent, Draft.url, Draft.url, url]
  exact beq_self_eq_true _

/-- A client that has sent a request for a draft leaves one more of them on record. -/
theorem sources_send {draft : Draft} {sender after : Client} {session : Session}
    {result : Except Fault Response} (url : sender.session.url = session.url)
    (sent : send (draft.sentBy sender) sender = (result, after)) :
    after.session.url = session.url ∧
      after.world.requests.filter (draft.isSource session) =
        sender.world.requests.filter (draft.isSource session) ++ [draft.sentBy sender] := by
  have kept := frame_session.within_send (draft.sentBy sender) sender
  have recorded := requests_send (draft.sentBy sender) sender
  rw [sent] at kept recorded
  dsimp only at kept recorded
  refine ⟨by rw [kept, url], ?_⟩
  rw [recorded, List.filter_append, List.filter_singleton, isSource_sentBy draft url]
  rfl

/-- A renewal after a rejection leaves what was on record then. -/
theorem sources_renew {draft : Draft} {sender after : Client} {session : Session} {reason : String}
    (url : sender.session.url = session.url) (rejected : RejectedInto draft sender reason after) :
    (renew sender.session.id (expiryNoted sender after)).2.session.url = session.url ∧
      (renew sender.session.id (expiryNoted sender after)).2.world.requests.filter
          (draft.isSource session) =
        sender.world.requests.filter (draft.isSource session) ++ [draft.sentBy sender] := by
  obtain ⟨response, sent, -⟩ := rejected
  obtain ⟨sameUrl, recorded⟩ := sources_send url sent
  have only := loginsOnly_renew sender.session.id (expiryNoted sender after)
  have keptUrl : (expiryNoted sender after).session.url = session.url := sameUrl
  exact ⟨only.1.trans keptUrl, (only.sources draft session keptUrl).trans recorded⟩

/-! ## How the last turn ends -/

/-- An answer that accepts the session does not reject it. -/
theorem not_rejectedInto_of_sent {sender after : Client} {result : Except Fault Response}
    (sent : send (draft.sentBy sender) sender = (result, after))
    (accepted : ∀ response, result = .ok response → response.rejection? = none) :
    ¬ ∃ reason after, RejectedInto draft sender reason after := by
  rintro ⟨reason, other, response, answered, rejected⟩
  rw [sent] at answered
  rw [accepted response (congrArg Prod.fst answered)] at rejected
  cases rejected

/-- A request ends with a fault that is ordinary, unless its session is rejected. -/
theorem Ends.ordinary {sender left : Client} {renewals : Nat} {fault : Fault}
    (ends : Ends draft sender renewals (.error fault) left) :
    fault.IsOrdinary ∨ ∃ reason, fault = .sessionRejected reason := by
  cases ends with
  | unanswered sent => exact Or.inl (ordinary_send _ sender fault (congrArg Prod.fst sent))
  | failed sent accepted status => exact Or.inl (isOrdinary_of_statusFault? status)
  | rejected rejected => exact Or.inr ⟨_, rfl⟩
  | unrenewed rejected failed =>
    exact Or.inl (ordinary_renew _ _ fault (congrArg Prod.fst failed))

/-- A request ends with a rejected session if its last sending is rejected and no renewal is
left. -/
theorem Ends.rejected_iff {sender left : Client} {renewals : Nat} {result : Except Fault Response}
    (ends : Ends draft sender renewals result left) :
    (∃ reason, result = .error (.sessionRejected reason)) ↔
      renewals = 0 ∧ ∃ reason after, RejectedInto draft sender reason after := by
  have never {fault : Fault} (ordinary : fault.IsOrdinary) :
      ¬ ∃ reason, (.error fault : Except Fault Response) = .error (.sessionRejected reason) :=
    fun ⟨reason, same⟩ => ordinary.ne_sessionRejected reason (Except.error.inj same)
  cases ends with
  | unanswered sent =>
    refine iff_of_false (never (ordinary_send _ sender _ (congrArg Prod.fst sent))) fun both => ?_
    exact not_rejectedInto_of_sent sent (fun _ same => by cases same) both.2
  | accepted sent accepted fine =>
    refine iff_of_false (fun ⟨_, same⟩ => by cases same) fun both => ?_
    exact not_rejectedInto_of_sent sent (fun _ same => by cases same; exact accepted) both.2
  | failed sent accepted status =>
    have failure := isOrdinary_of_statusFault? status
    refine iff_of_false (never failure) fun both => ?_
    exact not_rejectedInto_of_sent sent (fun _ same => by cases same; exact accepted) both.2
  | rejected rejected => exact iff_of_true ⟨_, rfl⟩ ⟨rfl, _, _, rejected⟩
  | unrenewed rejected failed =>
    refine iff_of_false (never (ordinary_renew _ _ _ (congrArg Prod.fst failed))) fun both => ?_
    cases both.1

/-! ## What turns have in common -/

namespace Turns

variable {renewals : Nat} {senders : List Client} {result : Except Fault Response} {left : Client}

/-- There is one turn more than the session is renewed, at most. -/
theorem bounded (turns : Turns draft renewals senders result left) :
    senders.length ≤ renewals + 1 := by
  induction turns with
  | last ends => exact Nat.le_add_left 1 _
  | again renewed later inductionHypothesis => exact Nat.succ_le_succ inductionHypothesis

/-- Each sender follows from the one before. -/
theorem renewed (turns : Turns draft renewals senders result left) :
    senders.IsChain (Renewed draft) := by
  induction turns with
  | @last renewals sender result left ends => exact .singleton sender
  | again renewed later inductionHypothesis => exact .cons_cons renewed inductionHypothesis

/-- The last sender ends the request, with the renewals that are left. -/
theorem ends (turns : Turns draft renewals senders result left) :
    ∀ sender ∈ senders.getLast?, Ends draft sender (renewals + 1 - senders.length) result left := by
  induction turns with
  | @last renewals sender result left ends =>
    rintro other ⟨⟩
    exact ends
  | @again renewals sender next senders result left renewed later inductionHypothesis =>
    intro last member
    rw [List.getLast?_cons_cons] at member
    have ends := inductionHypothesis last member
    rwa [List.length_cons, Nat.add_sub_add_right]

/-- The senders' requests come on record, besides logins. -/
theorem recorded {session : Session} (turns : Turns draft renewals senders result left)
    (url : ∀ sender ∈ senders.head?, sender.session.url = session.url) :
    ∀ sender ∈ senders.head?, left.world.requests.filter (draft.isSource session) =
      sender.world.requests.filter (draft.isSource session) ++ senders.map draft.sentBy := by
  induction turns with
  | @last renewals sender result left ends =>
    rintro other ⟨⟩
    have same : sender.session.url = session.url := url sender rfl
    cases ends with
    | unanswered sent => exact (sources_send same sent).2
    | accepted sent accepted fine => exact (sources_send same sent).2
    | failed sent accepted status =>
      rw [Client.noted]
      obtain ⟨entries, run⟩ := exists_log_apply .warning "HTTP %s from %s:\n%s" _ _
      rw [run]
      exact (sources_send same sent).2
    | rejected rejected =>
      obtain ⟨response, sent, -⟩ := rejected
      exact (sources_send same sent).2
    | unrenewed rejected failed =>
      have kept := (sources_renew same rejected).2
      rwa [failed] at kept
  | @again renewals sender next senders result left renewed later inductionHypothesis =>
    rintro other ⟨⟩
    obtain ⟨rejected, renewal, -⟩ := renewed
    obtain ⟨nextUrl, kept⟩ := sources_renew (url sender rfl) rejected
    rw [renewal] at nextUrl kept
    have rest := inductionHypothesis (fun _ member => by cases member; exact nextUrl) next rfl
    rw [rest, kept, List.append_assoc]
    rfl

/-- The result is a rejected session if every sending that is permitted was rejected, and else
it is none. -/
theorem rejected_iff (turns : Turns draft renewals senders result left) :
    (∃ reason, result = .error (.sessionRejected reason)) ↔ senders.length = renewals + 1 ∧
      ∀ sender ∈ senders, ∃ reason after, RejectedInto draft sender reason after := by
  induction turns with
  | @last renewals sender result left ends =>
    rw [ends.rejected_iff]
    simp
  | @again renewals sender next senders result left renewed later inductionHypothesis =>
    obtain ⟨rejected, -, -⟩ := renewed
    rw [inductionHypothesis]
    simp only [List.length_cons, Nat.add_right_cancel_iff, List.forall_mem_cons]
    exact and_congr_right fun _ => ⟨fun rest => ⟨⟨_, _, rejected⟩, rest⟩, And.right⟩

/-- That the session has expired is not said. -/
theorem unexpired (turns : Turns draft renewals senders result left) (fault : Fault)
    (stopped : result = .error fault) : fault.kind? ≠ some .sessionExpired := by
  induction turns with
  | last ends =>
    subst stopped
    rcases ends.ordinary with ordinary | ⟨reason, rfl⟩
    · exact ordinary.kind?_ne
    · intro expired
      cases expired
  | again renewed later inductionHypothesis => exact inductionHypothesis stopped

end Turns

/-- A request of a draft carries an id in the place that the draft says. -/
theorem carried?_request (draft : Draft) (session : Session) (id : Value)
    (placed : draft.placement ≠ .nowhere) :
    (draft.request session id).carried? draft.placement = some id := by
  rw [Draft.request]
  cases place : draft.placement with
  | cookie => exact (lookup_insertEntry _ _ _ _).trans (if_pos rfl)
  | formField => exact (lookup_insertEntry _ _ _ _).trans (if_pos rfl)
  | nowhere => exact absurd place placed

/-- Every request takes a course: it is sent at most once more than its session may be renewed,
each time with the id that the session has at that moment. The session is renewed once between
two sendings, with the id that was rejected. The request comes to the first answer that does
not reject the session, whose status alone is checked, to a rejected session exactly if all
sendings were rejected, and to the fault of a renewal that fails. -/
theorem exists_course_request (draft : Draft) (client : Client) :
    ∃ senders, Course draft client senders (request draft client).1 (request draft client).2 := by
  -- The course from the first sender on, which has the URL and the records of the client.
  have course (first : Client) (begins : ∀ senders result left,
        Begins client (first :: senders) result left)
      (url : first.session.url = client.session.url)
      (records : first.world.requests.filter (draft.isSource client.session) =
        client.world.requests.filter (draft.isSource client.session)) :
      ∃ senders, Course draft client senders (Stage.sending draft draft.retries.toNat first).1
        (Stage.sending draft draft.retries.toNat first).2 := by
    obtain ⟨senders, turns⟩ := exists_turns draft draft.retries.toNat first
    refine ⟨first :: senders, ?_⟩
    exact
      { bounded := turns.bounded
        recorded := by
          rw [← records]
          exact turns.recorded (fun _ member => by cases member; exact url) first rfl
        carried := fun sender _ placed => carried?_request draft _ _ placed
        begins := begins _ _ _
        renewed := turns.renewed
        ends := turns.ends
        rejected_iff := turns.rejected_iff
        unexpired := turns.unexpired }
  rw [request, bind_of_ok _ (session_apply client)]
  cases known : client.session.id.truthy with
  | true =>
    exact course client (fun _ _ _ => .known known) rfl rfl
  | false =>
    have only := loginsOnly_renew .null client
    rcases login : renew .null client with ⟨fault | ⟨⟩, after⟩
    · rw [login] at only
      have ordinary : fault.IsOrdinary := ordinary_renew _ client fault (congrArg Prod.fst login)
      have stops : (renew .null >>= fun _ => Stage.sending draft draft.retries.toNat) client =
        (.error fault, after) := bind_of_error _ login
      show ∃ senders, Course draft client senders
        ((renew .null >>= fun _ => Stage.sending draft draft.retries.toNat) client).1
        ((renew .null >>= fun _ => Stage.sending draft draft.retries.toNat) client).2
      rw [stops]
      refine ⟨[], ?_⟩
      exact
        { bounded := Nat.zero_le _
          recorded := by rw [only.sources draft _ rfl]; exact (List.append_nil _).symm
          carried := fun _ member => by cases member
          begins := .failed known login
          renewed := .nil
          ends := fun _ member => by cases member
          rejected_iff := by
            refine iff_of_false ?_ fun both => by cases both.1
            rintro ⟨reason, same⟩
            exact ordinary.ne_sessionRejected reason (Except.error.inj same)
          unexpired := fun _ same => by cases same; exact ordinary.kind?_ne }
    · rw [login] at only
      have goes : (renew .null >>= fun _ => Stage.sending draft draft.retries.toNat) client =
        Stage.sending draft draft.retries.toNat after := bind_of_ok _ login
      show ∃ senders, Course draft client senders
        ((renew .null >>= fun _ => Stage.sending draft draft.retries.toNat) client).1
        ((renew .null >>= fun _ => Stage.sending draft draft.retries.toNat) client).2
      rw [goes]
      exact course after (fun _ _ _ => .missing known login) only.1 (only.sources draft _ rfl)

end

end Session

end Jobflow
