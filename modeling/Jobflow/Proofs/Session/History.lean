import Mathlib.Data.List.Pairwise
import Mathlib.Data.List.Perm.Subperm
import Jobflow.Proofs.Value

/-!
# Histories of a session

Workers of one session send requests with ids, learn that ids are rejected, and log in. A
history is the record of what they did, the latest event first. An orderly history is one in
which requests carry the id that the session has at the time, ids are rejected after they
were sent, and a login is made because of a rejected id, or the lack of one, that the session
still has. Nothing is said about when a worker learns of a rejection: the id may have been
renewed since then.

If every login brings an id that was never issued before, an orderly history renews each id
at most once.
-/

namespace Jobflow.Session

/-- A login: the id that a worker meant to renew, the one that the session had, and the one
that the login brought, if any. -/
structure Login where
  /-- The id that the worker meant to renew, or nothing. -/
  expired : Value
  /-- The id that the session had. -/
  replaced : Value
  /-- The id that the session has since then, if the login brought one. -/
  obtained : Option Value

/-- What a worker does. -/
inductive Event
  /-- Sending its request with an id. -/
  | sent (id : Value)
  /-- Learning that the server rejected the id. -/
  | rejected (id : Value)
  /-- Logging in. -/
  | login (login : Login)

namespace Event

/-- Whether an event is that a request was sent. -/
def isSent : Event → Bool
  | sent _ => true
  | _ => false

/-- The id that is rejected. -/
def rejected? : Event → Option Value
  | rejected id => some id
  | _ => none

/-- The id that a request carried. -/
def carried? : Event → Option Value
  | sent id => some id
  | rejected id => some id
  | login _ => none

/-- The login that is made. -/
def login? : Event → Option Login
  | login made => some made
  | _ => none

/-- The id that is issued. -/
def issued? : Event → Option Value
  | login made => made.obtained
  | _ => none

end Event

/-- What some workers did, the latest event first. -/
abbrev History (ι : Type) := List (ι × Event)

/-- Two ids that differ, whichever is compared with the other one. -/
def Differ (id other : Value) : Prop := id.same other = false ∧ other.same id = false

instance : Std.Symm Differ := ⟨fun _ _ differ => ⟨differ.2, differ.1⟩⟩

section

variable {ι : Type}

namespace History

/-- The ids that were rejected. -/
def rejected (history : History ι) : List Value := history.filterMap fun entry => entry.2.rejected?

/-- The logins. -/
def logins (history : History ι) : List Login := history.filterMap fun entry => entry.2.login?

/-- The ids that logins brought. -/
def issued (history : History ι) : List Value := history.filterMap fun entry => entry.2.issued?

/-- How many times a worker sent its request. -/
def sendings [DecidableEq ι] (history : History ι) (worker : ι) : Nat :=
  history.countP fun entry => entry.1 = worker && entry.2.isSent

/-- The id that a session has which began with the given one. -/
def present (first : Value) (history : History ι) : Value := history.issued.headD first

/-- All ids of a session that began with the given one. -/
def ids (first : Value) (history : History ι) : List Value := history.issued ++ [first]

/-- The ids of a session that were replaced. -/
def former (first : Value) (history : History ι) : List Value := (history.ids first).tail

/-- Every login brings an id, and one that the session did not have before. -/
structure Fresh (first : Value) (history : History ι) : Prop where
  /-- What a login brings is an id. -/
  present : .null ∉ history.issued
  /-- No id comes twice. -/
  apart : (history.ids first).Pairwise Differ

/-- Histories of a session that began with the given id. -/
inductive Orderly (first : Value) : History ι → Prop
  /-- Nothing was done. -/
  | nil : Orderly first []
  /-- A request is sent with the present id. -/
  | sent {history : History ι} (before : Orderly first history) (worker : ι) :
    Orderly first ((worker, .sent (present first history)) :: history)
  /-- An id is rejected that the request was sent with. -/
  | rejected {history : History ι} (before : Orderly first history) (worker : ι) (id : Value)
    (sent : (worker, .sent id) ∈ history) : Orderly first ((worker, .rejected id) :: history)
  /-- A login replaces the present id, which equals the one that the worker means to renew: one
  that was rejected, or none. -/
  | login {history : History ι} (before : Orderly first history) (worker : ι) (made : Login)
    (replaced : made.replaced = present first history)
    (same : made.replaced.same made.expired = true)
    (cause : made.expired = .null ∨ (worker, .rejected made.expired) ∈ history) :
    Orderly first ((worker, .login made) :: history)

/-- A history in which each id is renewed at most once. -/
structure RenewsOnce (first : Value) (history : History ι) : Prop where
  /-- A login replaces the very id that it was meant to renew. -/
  meant : ∀ login ∈ history.logins, login.replaced = login.expired
  /-- Because of an id that a login has replaced no later login is made. -/
  once : history.logins.Pairwise fun later earlier =>
    earlier.obtained.isSome → Differ later.expired earlier.expired
  /-- There are at most as many logins that bring an id as different ids were rejected, and one
  more if there was none at first. -/
  bounded : history.issued.length ≤
    (Value.distinct history.rejected).length + if first.same .null then 1 else 0

/-! ## Ids of a history -/

/-- The ids are the present one and the former ones. -/
theorem ids_eq (first : Value) (history : History ι) :
    history.ids first = history.present first :: history.former first := by
  rw [former, ids, present]
  cases history.issued <;> rfl

/-- There are as many former ids as new ones were issued. -/
theorem length_former (first : Value) (history : History ι) :
    (history.former first).length = history.issued.length := by
  simp [former, ids]

/-- An event that brings no id leaves the ids. -/
theorem issued_cons_of_none (entry : ι × Event) (history : History ι)
    (quiet : entry.2.issued? = none) : issued (entry :: history) = history.issued :=
  List.filterMap_cons_none quiet

/-- A login that brings an id adds it. -/
theorem issued_cons_of_some (entry : ι × Event) (history : History ι) (id : Value)
    (brings : entry.2.issued? = some id) : issued (entry :: history) = id :: history.issued :=
  List.filterMap_cons_some brings

/-- The present id after an event is the one that it brings, or else the one before. -/
theorem present_cons (first : Value) (entry : ι × Event) (history : History ι) :
    present first (entry :: history) = entry.2.issued?.getD (history.present first) := by
  cases brings : entry.2.issued? with
  | none => rw [present, issued_cons_of_none _ _ brings]; rfl
  | some id => rw [present, issued_cons_of_some _ _ id brings]; rfl

/-- The former ids after an event. -/
theorem former_cons (first : Value) (entry : ι × Event) (history : History ι) :
    former first (entry :: history) =
      if entry.2.issued?.isSome then history.present first :: history.former first
      else history.former first := by
  cases brings : entry.2.issued? with
  | none => rw [former, ids, issued_cons_of_none _ _ brings]; rfl
  | some id => rw [← ids_eq, former, ids, issued_cons_of_some _ _ id brings]; rfl

/-- Ids stay ids of the session. -/
theorem mem_ids_cons (first : Value) (entry : ι × Event) (history : History ι) (id : Value)
    (member : id ∈ history.ids first) : id ∈ ids first (entry :: history) := by
  cases brings : entry.2.issued? with
  | none => rwa [ids, issued_cons_of_none _ _ brings]
  | some new =>
    rw [ids, issued_cons_of_some _ _ new brings]
    exact List.mem_cons_of_mem _ member

/-- A history without its latest events is fresh too. -/
theorem Fresh.tail {first : Value} {entry : ι × Event} {history : History ι}
    (fresh : Fresh first (entry :: history)) : Fresh first history := by
  obtain ⟨present, apart⟩ := fresh
  cases brings : entry.2.issued? with
  | none =>
    rw [issued_cons_of_none _ _ brings] at present
    rw [ids, issued_cons_of_none _ _ brings] at apart
    exact ⟨present, apart⟩
  | some id =>
    rw [issued_cons_of_some _ _ id brings] at present
    rw [ids, issued_cons_of_some _ _ id brings] at apart
    exact ⟨fun member => present (List.mem_cons_of_mem _ member), (List.pairwise_cons.mp apart).2⟩

/-- The former ids differ from the present one. -/
theorem Fresh.differ_present {first : Value} {history : History ι} (fresh : Fresh first history)
    (id : Value) (member : id ∈ history.former first) : Differ (history.present first) id := by
  have apart := fresh.apart
  rw [ids_eq] at apart
  exact (List.pairwise_cons.mp apart).1 id member

/-- The session has an id that equals nothing only if it began with nothing. -/
theorem Fresh.first_eq_null {first : Value} {history : History ι} (fresh : Fresh first history)
    (missing : history.present first = .null) : first = .null := by
  rw [History.present] at missing
  cases issued : history.issued with
  | nil => rwa [issued] at missing
  | cons id rest =>
    rw [issued] at missing
    exact absurd (issued ▸ missing ▸ List.mem_cons_self : Value.null ∈ history.issued) fresh.present

/-! ## Laws of orderly histories -/

/-- Requests carry ids of the session, also those that are rejected. -/
theorem Orderly.mem_ids_of_carried {first : Value} {history : History ι}
    (orderly : Orderly first history) (entry : ι × Event) (member : entry ∈ history) (id : Value)
    (carried : entry.2.carried? = some id) : id ∈ history.ids first := by
  induction orderly generalizing entry with
  | nil => cases member
  | @sent history before worker inductionHypothesis =>
    apply mem_ids_cons
    rcases List.mem_cons.mp member with rfl | earlier
    · cases carried
      rw [ids_eq]
      exact List.mem_cons_self
    · exact inductionHypothesis entry earlier carried
  | rejected before worker lost sent inductionHypothesis =>
    apply mem_ids_cons
    rcases List.mem_cons.mp member with rfl | earlier
    · exact inductionHypothesis _ sent carried
    · exact inductionHypothesis entry earlier carried
  | login before worker made replaced same cause inductionHypothesis =>
    apply mem_ids_cons
    rcases List.mem_cons.mp member with rfl | earlier
    · cases carried
    · exact inductionHypothesis entry earlier carried

/-- The id that a worker means to renew when it logs in is the present one: a former id would
differ from it. -/
theorem Fresh.expired_eq_present {first : Value} {history : History ι}
    (fresh : Fresh first history) (orderly : Orderly first history) (worker : ι) (expired : Value)
    (same : (history.present first).same expired = true)
    (cause : expired = .null ∨ (worker, .rejected expired) ∈ history) :
    expired = history.present first := by
  rcases cause with rfl | rejected
  · exact ((Value.same_null_iff _).mp same).symm
  · have member := orderly.mem_ids_of_carried _ rejected expired rfl
    rw [ids_eq] at member
    rcases List.mem_cons.mp member with now | old
    · exact now
    · have differ := (fresh.differ_present expired old).1
      rw [same] at differ
      cases differ

/-- A login replaces the very id that it was meant to renew. -/
theorem Orderly.replaced_eq_expired {first : Value} {history : History ι}
    (orderly : Orderly first history) (fresh : Fresh first history) :
    ∀ login ∈ history.logins, login.replaced = login.expired := by
  induction orderly with
  | nil => intro login member; cases member
  | sent before worker inductionHypothesis => exact inductionHypothesis fresh.tail
  | rejected before worker id sent inductionHypothesis => exact inductionHypothesis fresh.tail
  | login before worker made replaced same cause inductionHypothesis =>
    intro login member
    rcases List.mem_cons.mp member with rfl | earlier
    · rw [replaced] at same ⊢
      exact (fresh.tail.expired_eq_present before worker _ same cause).symm
    · exact inductionHypothesis fresh.tail login earlier

/-- An id that a login replaced by another one is a former id. -/
theorem Orderly.replaced_mem_former {first : Value} {history : History ι}
    (orderly : Orderly first history) :
    ∀ login ∈ history.logins, login.obtained.isSome → login.replaced ∈ history.former first := by
  induction orderly with
  | nil => intro login member; cases member
  | sent before worker inductionHypothesis => exact inductionHypothesis
  | rejected before worker id sent inductionHypothesis => exact inductionHypothesis
  | login before worker made replaced same cause inductionHypothesis =>
    intro login member brings
    rw [former_cons]
    rcases List.mem_cons.mp member with rfl | earlier
    · rw [if_pos (show (Event.login login).issued?.isSome from brings), replaced]
      exact List.mem_cons_self
    · have old := inductionHypothesis login earlier brings
      split
      · exact List.mem_cons_of_mem _ old
      · exact old

/-- Because of an id that a login has replaced no later login is made. -/
theorem Orderly.pairwise_logins {first : Value} {history : History ι}
    (orderly : Orderly first history) (fresh : Fresh first history) :
    history.logins.Pairwise fun later earlier =>
      earlier.obtained.isSome → Differ later.expired earlier.expired := by
  induction orderly with
  | nil => exact .nil
  | sent before worker inductionHypothesis => exact inductionHypothesis fresh.tail
  | rejected before worker id sent inductionHypothesis => exact inductionHypothesis fresh.tail
  | login before worker made replaced same cause inductionHypothesis =>
    refine List.pairwise_cons.mpr ⟨?_, inductionHypothesis fresh.tail⟩
    intro earlier member brings
    rw [replaced] at same
    rw [fresh.tail.expired_eq_present before worker _ same cause,
      ← before.replaced_eq_expired fresh.tail earlier member]
    exact fresh.tail.differ_present _ (before.replaced_mem_former earlier member brings)

/-- A former id equals itself and was rejected, unless it was the lack of one at first. -/
theorem Orderly.of_mem_former {first : Value} {history : History ι}
    (orderly : Orderly first history) (fresh : Fresh first history) :
    ∀ id ∈ history.former first, id.same id = true ∧
      (id = first ∧ first = .null ∨ id ∈ history.rejected) := by
  induction orderly with
  | nil => intro id member; cases member
  | sent before worker inductionHypothesis => exact inductionHypothesis fresh.tail
  | rejected before worker lost sent inductionHypothesis =>
    intro id member
    obtain ⟨same, cause⟩ := inductionHypothesis fresh.tail id member
    exact ⟨same, cause.imp_right (List.mem_cons_of_mem _)⟩
  | @login history before worker made replaced same cause inductionHypothesis =>
    intro id member
    rw [former_cons] at member
    split at member
    · rcases List.mem_cons.mp member with rfl | old
      · rw [replaced] at same
        have meant := fresh.tail.expired_eq_present before worker _ same cause
        rw [meant] at same cause
        refine ⟨same, cause.imp (fun missing => ?_) fun rejected => ?_⟩
        · have started := fresh.tail.first_eq_null missing
          exact ⟨missing.trans started.symm, started⟩
        · exact List.mem_filterMap.mpr ⟨_, List.mem_cons_of_mem _ rejected, rfl⟩
      · exact inductionHypothesis fresh.tail id old
    · exact inductionHypothesis fresh.tail id member

/-- Among rejected ids of the session, each one that equals itself is counted. -/
theorem Orderly.mem_distinct_rejected {first : Value} {history : History ι}
    (orderly : Orderly first history) (fresh : Fresh first history) (id : Value)
    (rejected : id ∈ history.rejected) : id ∈ Value.distinct history.rejected := by
  have known (id : Value) (member : id ∈ history.rejected) : id ∈ history.ids first := by
    obtain ⟨⟨worker, event⟩, there, found⟩ := List.mem_filterMap.mp member
    refine orderly.mem_ids_of_carried _ there id ?_
    cases event with
    | rejected other => exact found
    | _ => cases found
  obtain ⟨kept, there, rfl | same⟩ := Value.exists_mem_distinct _ id rejected
  · exact there
  · have keptKnown := known kept (Value.mem_of_mem_distinct _ kept there)
    by_cases equal : id = kept
    · exact equal ▸ there
    · have differ := fresh.apart.forall (known id rejected) keptKnown equal
      rw [differ.1] at same
      cases same

/-- The former ids are different ones. -/
theorem Orderly.nodup_former {first : Value} {history : History ι}
    (orderly : Orderly first history) (fresh : Fresh first history) :
    (history.former first).Nodup := by
  have apart := fresh.apart
  rw [ids_eq] at apart
  refine (List.pairwise_cons.mp apart).2.imp_of_mem ?_
  rintro id other member - differ rfl
  have same := (orderly.of_mem_former fresh id member).1
  rw [differ.1] at same
  cases same

/-- There are at most as many logins that bring an id as different ids were rejected, and one
more if there was none at first. -/
theorem Orderly.length_issued_le {first : Value} {history : History ι}
    (orderly : Orderly first history) (fresh : Fresh first history) :
    history.issued.length ≤
      (Value.distinct history.rejected).length + if first.same .null then 1 else 0 := by
  rw [← length_former first]
  have nodup := orderly.nodup_former fresh
  by_cases missing : first = .null
  · have inside : history.former first ⊆ first :: Value.distinct history.rejected := by
      intro id member
      rcases (orderly.of_mem_former fresh id member).2 with ⟨rfl, -⟩ | rejected
      · exact List.mem_cons_self
      · exact List.mem_cons_of_mem _ (orderly.mem_distinct_rejected fresh id rejected)
    rw [if_pos ((Value.same_null_iff first).mpr missing)]
    exact (List.subperm_of_subset nodup inside).length_le
  · have inside : history.former first ⊆ Value.distinct history.rejected := by
      intro id member
      rcases (orderly.of_mem_former fresh id member).2 with ⟨-, absent⟩ | rejected
      · exact absurd absent missing
      · exact orderly.mem_distinct_rejected fresh id rejected
    rw [if_neg fun same => missing ((Value.same_null_iff first).mp same)]
    exact (List.subperm_of_subset nodup inside).length_le

/-- An orderly history in which every login brings a new id renews each id at most once. -/
theorem Orderly.renewsOnce {first : Value} {history : History ι}
    (orderly : Orderly first history) (fresh : Fresh first history) :
    RenewsOnce first history where
  meant := orderly.replaced_eq_expired fresh
  once := orderly.pairwise_logins fresh
  bounded := orderly.length_issued_le fresh

end History

end

end Jobflow.Session
