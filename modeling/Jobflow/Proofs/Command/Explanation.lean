import Jobflow.Proofs.Command.Upload
import Jobflow.Proofs.Session.Replay

/-!
# What is said of an upload that is not permitted

A server answers an upload with the status 400 or 401 if the project is locked or the user may not
write to it. The command then says what to check, but only if that was the first upload. An upload
that is repeated once the project was created fails with the bare status.

An answer that rejects the session counts as such, whatever its status is.

Which upload is answered in which way is read off the record: the requests before an archive tell
what the server answered to it, and whether a project was asked for.
-/

namespace Jobflow.Command

open Session

/-! ## The only file among the requests of an attempt -/

/-- A member of two lists in a row is in one of them. -/
theorem split_append {α : Type} {first second earlier later : List α} {member : α}
    (split : first ++ second = earlier ++ member :: later) :
    (∃ rest, first = earlier ++ member :: rest) ∨
      ∃ between, second = between ++ member :: later ∧ earlier = first ++ between := by
  rcases List.append_eq_append_iff.mp split with ⟨between, same, behind⟩ | ⟨rest, same, behind⟩
  · exact .inr ⟨between, behind, same⟩
  · cases rest with
    | nil => exact .inr ⟨[], behind.symm, by rw [same, List.append_nil, List.append_nil]⟩
    | cons other rest =>
      obtain ⟨rfl, -⟩ := List.cons.inj behind
      exact .inl ⟨rest, same⟩

/-- Behind requests without a file, a request with a file is the last one. -/
theorem final_of_file {sent earlier later : List Request} {final : Option Request}
    {request : Request} (prepares : ∀ request ∈ sent, request.Prepares)
    (carries : request.file.isSome = true)
    (split : sent ++ final.toList = earlier ++ request :: later) :
    final = some request ∧ earlier = sent := by
  rcases split_append split with ⟨rest, same⟩ | ⟨between, last, same⟩
  · have member : request ∈ sent := by simp [same]
    rw [(prepares request member).noFile] at carries
    cases carries
  · cases final with
    | none => simp at last
    | some final =>
      cases between with
      | nil =>
        obtain ⟨rfl, -⟩ := List.cons.inj last
        exact ⟨rfl, by rw [same, List.append_nil]⟩
      | cons other between => simp at last

/-- The requests of an attempt ask for no project. -/
theorem Attempt.noCreation {project path : String} {archive : Upload} {before after : Client}
    {result : Except Fault Value} (attempt : Attempt project path archive before result after)
    {requests : List Request}
    (recorded : after.world.requests = before.world.requests ++ requests) :
    ∀ request ∈ requests, ¬ request.AsksToCreate := by
  obtain ⟨sent, final, same, prepares, uploads, -⟩ := attempt.sent
  rw [recorded, List.append_assoc, List.append_cancel_left_eq] at same
  rw [same]
  intro request member
  rcases List.mem_append.mp member with inside | last
  · exact (prepares request inside).noCreation
  · exact (uploads request (Option.mem_toList.mp last)).noCreation

/-- The answer to the archive of an attempt decides what the attempt comes to. -/
theorem Attempt.exists_delivery {project path : String} {archive : Upload} {before after : Client}
    {result : Except Fault Value} (attempt : Attempt project path archive before result after) :
    ∃ sent final, Delivery before (result, after) sent final ∧
      ∀ request ∈ sent ++ final.toList, ¬ request.AsksToCreate := by
  obtain ⟨sent, final, delivery⟩ :=
    exists_delivery_upload (.text project) path (some archive.name) before
  rw [attempt.run] at delivery
  exact ⟨sent, final, delivery, attempt.noCreation delivery.recorded⟩

/-! ## The answers to archives in the course of an upload -/

/-- Among earlier requests, a project was asked for. -/
def IsAgain (earlier : List Request) : Prop := ∃ request ∈ earlier, request.AsksToCreate

/-- What an upload makes of a fault that the answer to its archive counts as. -/
inductive Treated {α : Type} (project : String) (create : Bool) (earlier : List Request)
    (fault : Fault) : Except Fault α → Prop
  /-- The fault of the first upload is put in words. -/
  | failed {raised : Fault} (first : ¬ IsAgain earlier)
    (fails : recovery create project fault = .fail raised) :
    Treated project create earlier fault (.error raised)
  /-- The project is created after the first upload. What comes of that is another matter. -/
  | recovered {result : Except Fault α} (first : ¬ IsAgain earlier) (allowed : create = true)
    (missing : Missing fault) : Treated project create earlier fault result
  /-- The fault of the repeated upload is passed on. -/
  | passed (again : IsAgain earlier) : Treated project create earlier fault (.error fault)

/-- Every archive among requests that are sent to a server is treated by its answer. -/
def TreatsAll {α : Type} (project : String) (create : Bool) (server : Script) (sent : List Request)
    (result : Except Fault α) : Prop :=
  ∀ earlier request later, sent = earlier ++ request :: later → request.file.isSome = true →
    ∀ response, server.answer earlier request = .ok response →
      ∀ fault, response.fault? = some fault → Treated project create earlier fault result

section

variable {α : Type} {project : String} {create : Bool} {server : Script} {sent others : List Request}
variable {result : Except Fault α}

/-- Where nothing is sent, there is nothing to treat. -/
theorem treatsAll_nil : TreatsAll project create server [] result := by
  intro earlier request later split
  simp at split

/-- Archives among later requests may be treated as well. -/
theorem TreatsAll.append (before : TreatsAll project create server sent result)
    (after : ∀ earlier request later, others = earlier ++ request :: later →
      request.file.isSome = true → ∀ response, (server.after sent).answer earlier request =
        .ok response → ∀ fault, response.fault? = some fault →
          Treated project create (sent ++ earlier) fault result) :
    TreatsAll project create server (sent ++ others) result := by
  intro earlier request later split carries response answered fault counts
  rcases split_append split with ⟨rest, inside⟩ | ⟨between, behind, rfl⟩
  · exact before earlier request rest inside carries response answered fault counts
  · rw [Script.answer_append] at answered
    exact after between request later behind carries response answered fault counts

/-- A creation sends no archive. -/
theorem TreatsAll.creation (before : TreatsAll project create server sent result)
    (creates : ∀ request ∈ others, request.Creates project) :
    TreatsAll project create server (sent ++ others) result := by
  refine before.append fun earlier request later split carries => ?_
  have member : request ∈ others := by simp [split]
  rw [(creates request member).noFile] at carries
  cases carries

/-- What is made of a fault stays when results are put in another form. -/
theorem TreatsAll.map {β : Type} (treats : TreatsAll project create server sent result)
    (form : α → β) : TreatsAll project create server sent (result.map form) := by
  intro earlier request later split carries response answered fault counts
  cases treats earlier request later split carries response answered fault counts with
  | failed first fails => exact .failed first fails
  | recovered first allowed missing => exact .recovered first allowed missing
  | passed again => exact .passed again

end

section

variable {project path : String} {archive : Upload} {create : Bool} {before after : Client}

/-- The archive of the first attempt is treated as the fault is that the attempt comes to, no
project having been asked for before. -/
theorem Attempt.exists_treatsAll {first : Except Fault Value}
    (attempt : Attempt project path archive before first after) {result : Except Fault Value}
    (treats : ∀ fault, first = .error fault → ∀ earlier, ¬ IsAgain earlier →
      Treated project create earlier fault result) :
    ∃ sent, after.world.requests = before.world.requests ++ sent ∧
      after.world.server = before.world.server.after sent ∧
      TreatsAll project create before.world.server sent result := by
  obtain ⟨sent, final, delivery, noCreation⟩ := attempt.exists_delivery
  refine ⟨sent ++ final.toList, delivery.recorded, delivery.served, ?_⟩
  intro earlier request later split carries response answered fault counts
  obtain ⟨rfl, rfl⟩ := final_of_file delivery.prepares carries split
  refine treats fault (delivery.faulty request rfl response answered fault counts) _ ?_
  rintro ⟨asking, member, asks⟩
  exact noCreation asking (List.mem_append_left _ member) asks

/-- The archive of an attempt that the project is created after is treated, whatever comes of it. -/
theorem Attempt.exists_recovered {fault : Fault}
    (attempt : Attempt project path archive before (.error fault) after) (allowed : create = true)
    (missing : Missing fault) (result : Except Fault Value) :
    ∃ sent, after.world.requests = before.world.requests ++ sent ∧
      after.world.server = before.world.server.after sent ∧
      TreatsAll project create before.world.server sent result := by
  refine attempt.exists_treatsAll fun other same earlier new => ?_
  cases same
  exact .recovered new allowed missing

/-- The archive of a repeated attempt comes to the fault that its answer counts as. -/
theorem Attempt.exists_passed {result : Except Fault Value}
    (attempt : Attempt project path archive before result after) :
    ∃ sent, after.world.requests = before.world.requests ++ sent ∧
      ∀ earlier request later, sent = earlier ++ request :: later → request.file.isSome = true →
        ∀ response, before.world.server.answer earlier request = .ok response →
          ∀ fault, response.fault? = some fault → result = .error fault := by
  obtain ⟨sent, final, delivery, -⟩ := attempt.exists_delivery
  refine ⟨_, delivery.recorded, fun earlier request later split carries => ?_⟩
  obtain ⟨rfl, rfl⟩ := final_of_file delivery.prepares carries split
  exact delivery.faulty request rfl

/-- In the course of an upload, every archive is treated by its answer. -/
theorem Course.exists_treatsAll {result : Except Fault Value}
    (course : Course project path archive create before result after) :
    ∃ sent, after.world.requests = before.world.requests ++ sent ∧
      TreatsAll project create before.world.server sent result := by
  cases course with
  | uploaded first =>
    obtain ⟨sent, recorded, -, treats⟩ := first.exists_treatsAll nofun
    exact ⟨sent, recorded, treats⟩
  | failed first lasting fails =>
    obtain ⟨sent, recorded, -, treats⟩ := first.exists_treatsAll fun fault same earlier new => by
      cases same
      exact .failed new fails
    exact ⟨sent, recorded, treats⟩
  | uncreated first allowed missing creation =>
    obtain ⟨sent, recorded, -, treats⟩ := first.exists_recovered allowed missing _
    obtain ⟨others, later, creates⟩ := creation.sent
    refine ⟨sent ++ others, ?_, treats.creation creates⟩
    rw [later, recorded, List.append_assoc]
  | @repeated _ _ _ middle created _ first allowed missing creation second =>
    obtain ⟨sent, recorded, served, treats⟩ := first.exists_recovered allowed missing result
    obtain ⟨others, sends, asking, asked, asks⟩ := exists_asksToCreate creation.run
    obtain ⟨more, last, passed⟩ := second.exists_passed
    have requests : created.world.requests = middle.world.requests ++ others := sends.recorded
    have server : created.world.server = before.world.server.after (sent ++ others) := by
      rw [Script.after_append, ← served]
      exact sends.served
    refine ⟨(sent ++ others) ++ more, ?_, (treats.creation sends.each).append ?_⟩
    · rw [last, requests, recorded, List.append_assoc, List.append_assoc, List.append_assoc]
    · intro earlier request later split carries response answered fault counts
      rw [← server] at answered
      rw [passed earlier request later split carries response answered fault counts]
      exact .passed ⟨asking, by simp [asked], asks⟩

end

/-- In the stages of the upload of a project, every archive is treated by its answer. -/
theorem Stages.exists_treatsAll {project : Project} {url name : Option String} {create : Bool}
    {world after : World} {outcome : Except Fault Uploaded}
    (stages : Stages project url name create world outcome after) :
    ∃ sent, after.requests = world.requests ++ sent ∧
      TreatsAll project.name create world.server sent outcome := by
  cases stages with
  | unbuilt building silent => exact ⟨[], by rw [silent, List.append_nil], treatsAll_nil⟩
  | unopened building silent opened => exact ⟨[], by rw [silent, List.append_nil], treatsAll_nil⟩
  | uploaded building silent found opened course =>
    obtain ⟨tree, notices, built⟩ :=
      Project.exists_build_world project (Action.temporaryPath world.folder) false world
    rw [building] at built
    have server := congrArg World.server built
    obtain ⟨sent, recorded, treats⟩ := course.exists_treatsAll
    refine ⟨sent, recorded.trans (congrArg (· ++ sent) silent), ?_⟩
    rw [show world.server = _ from server.symm]
    exact treats.map _

/-! ## Uploads that are not permitted -/

/-- What the command comes to when an upload is answered with the status 400 or 401. -/
inductive Told {α : Type} (project : String) (create : Bool) (earlier : List Request)
    (response : Response) : Except Fault α → Prop
  /-- The first upload was rejected, and the command says what to check. -/
  | rejected (first : ¬ IsAgain earlier) (accepted : response.rejection? = none)
    (status : response.status = 400) :
    Told project create earlier response (.error (.refused (.uploadRejected project)))
  /-- The first upload was forbidden, and the command says what to check. -/
  | forbidden (first : ¬ IsAgain earlier) (accepted : response.rejection? = none)
    (status : response.status = 401) :
    Told project create earlier response (.error (.refused (.uploadForbidden project)))
  /-- The repeated upload was rejected or forbidden, and there is only the status. -/
  | unexplained {message : String} (again : IsAgain earlier) (accepted : response.rejection? = none) :
    Told project create earlier response
      (.error (.transport .status (some response.status) message))
  /-- The answer rejects the session. -/
  | sessionRejected {reason : String} (found : response.rejection? = some reason) :
    Told project create earlier response (.error (.sessionRejected reason))
  /-- The answer rejects the session in words that sound as if the project were missing. -/
  | recovered {reason : String} {result : Except Fault α} (found : response.rejection? = some reason)
    (first : ¬ IsAgain earlier) (allowed : create = true)
    (missing : Missing (.sessionRejected reason)) : Told project create earlier response result

/-- An answer with an error status that rejects no session counts as a fault with this status. -/
theorem exists_statusFault {response : Response}
    (status : response.status = 400 ∨ response.status = 401) :
    ∃ message, response.statusFault? = some (.transport .status (some response.status) message) := by
  have error : response.isOk = false := by
    rcases status with status | status <;> rw [Response.isOk, status] <;> decide
  rw [Response.statusFault?, error, if_neg Bool.false_ne_true]
  exact ⟨_, rfl⟩

/-- A rejected session is passed on, unless the project is created. -/
theorem recovery_sessionRejected {create : Bool} {project reason : String} {raised : Fault}
    (fails : recovery create project (.sessionRejected reason) = .fail raised) :
    raised = .sessionRejected reason := by
  have remote : (Fault.sessionRejected reason).isRemote = true := rfl
  unfold recovery at fails
  rw [if_pos remote] at fails
  split at fails
  · cases fails
    rfl
  · change (if Text.endsWith _ missingProjectEnding = true then Recovery.createProject
      else .fail (.sessionRejected reason)) = _ at fails
    split at fails <;> cases fails
    rfl

/-- What an upload makes of the fault is what it tells. -/
theorem told_of_treated {α : Type} {project : String} {create : Bool} {earlier : List Request}
    {response : Response} (status : response.status = 400 ∨ response.status = 401) :
    ∃ fault, response.fault? = some fault ∧ ∀ result : Except Fault α,
      Treated project create earlier fault result → Told project create earlier response result := by
  cases rejection : response.rejection? with
  | some reason =>
    refine ⟨.sessionRejected reason, by rw [Response.fault?, rejection], fun result treated => ?_⟩
    cases treated with
    | failed first fails =>
      rw [recovery_sessionRejected fails]
      exact .sessionRejected rejection
    | recovered first allowed missing => exact .recovered rejection first allowed missing
    | passed again => exact .sessionRejected rejection
  | none =>
    obtain ⟨message, fault⟩ := exists_statusFault status
    refine ⟨_, by rw [Response.fault?, rejection]; exact fault, fun result treated => ?_⟩
    cases treated with
    | failed first fails =>
      rcases status with status | status <;> rw [status] at fails <;> cases fails
      · exact .rejected first rejection status
      · exact .forbidden first rejection status
    | recovered first allowed missing =>
      generalize response.status = code at status missing
      cases missing with
      | reported remote => cases remote
      | gone => rcases status with impossible | impossible <;> cases impossible
    | passed again => exact .unexplained again rejection

/-- Whenever the server answers an archive that the command uploads with the status 400 or 401, the
answer decides what the command tells. After the first upload it says what to check. After the
upload that is repeated once the project was created, there is nothing but the status. -/
theorem uploadProject_tells (project : Project) (url name : Option String) (create : Bool)
    (world : World) :
    ∃ outcome after sent,
      uploadProject project url name create world = (outcome, after) ∧
      after.requests = world.requests ++ sent ∧
      ∀ earlier request later, sent = earlier ++ request :: later → request.file.isSome = true →
        ∀ response, world.server.answer earlier request = .ok response →
          response.status = 400 ∨ response.status = 401 →
            Told project.name create earlier response outcome := by
  obtain ⟨outcome, used, ran, stages, -⟩ := stages_uploadAt project url name create world
  obtain ⟨sent, recorded, treats⟩ := stages.exists_treatsAll
  have applied := Action.withTemporary_apply (uploadAt project url name create) world
  rw [ran] at applied
  have kept := congrArg World.requests
    (Action.discarded_eq (Action.temporaryPath world.folder) used)
  refine ⟨outcome, _, sent, applied, kept.trans recorded, fun earlier request later split carries
    response answered status => ?_⟩
  obtain ⟨fault, counts, tells⟩ := told_of_treated status
  exact tells outcome (treats earlier request later split carries response answered fault counts)

/-- How the upload of an archive fails when the server answers it, and once the project was created
answers it again, in these ways: the kind of the error, if it is one of the library, and its text.
-/
def failure? (replies : List Reply) : Option (Option ErrorKind × String) :=
  let uploads : Script := [{ conditions := [("ajax", "upload")], replies := replies }]
  let server : Script := uploads ++ unknowing.world.server
  match (uploadArchive "load" "/hadoopdsl-TEMP" "load.zip" true
      { unknowing with world := { unknowing.world with server := server } }).1 with
  | .ok _ => none
  | .error fault => some (fault.kind?, fault.text)

/-- The first upload is rejected with an error of the library that says what to check, the repeated
one with a bare status. -/
theorem repeated_unexplained :
    failure? [.answer 400 (.text "Bad Request") none ""] =
        some (some .general, "Upload of load rejected (HTTP 400). Check that the project exists, " ++
          "is not locked, and that you are allowed to write to it.") ∧
      failure? [.answer 410 (.text "Gone") none "", .answer 400 (.text "Bad Request") none ""] =
        some (none, "400 Client Error: Bad Request for url: http://server:8081/manager") := by
  decide +kernel

end Jobflow.Command
