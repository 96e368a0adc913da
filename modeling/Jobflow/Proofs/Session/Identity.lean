import Jobflow.Proofs.Settings.Lines
import Jobflow.Session.Basic

/-!
# Options that tell sessions apart

The id of a session is kept under an option that is made of its user and server. Two things are
lost on the way: a point stands for each colon, and the names of options are kept in small letters.
So the users `me` and `Me` of a server share an option, and so do the servers `10.0.0:1` and
`10.0.0.1`. This is all that is lost. A user in small letters on a server that is called by a name
can be told from the option, as the last part of a name is no number that might have been a port.
-/

namespace Jobflow

open Text (cutFirst? cutLast? cutFirst?_append cutLast?_append)

/-- What stands for a character in the name of an option. -/
def pointed (c : Char) : Char := if c = ':' then '.' else c

/-- A text without colons stands for itself. -/
theorem map_pointed {cs : List Char} (uncut : ':' ∉ cs) : cs.map pointed = cs := by
  have kept : ∀ c ∈ cs, pointed c = c := fun c member =>
    if_neg fun (same : c = ':') => uncut (same ▸ member)
  exact (List.map_congr_left kept).trans (List.map_id' cs)

/-- Among characters of a kind there is none that is not. -/
theorem ne_of_all {kind : Char → Bool} {cs : List Char} (all : cs.all kind = true) {mark : Char}
    (other : kind mark = false) : ∀ c ∈ cs, (c == mark) = false := by
  intro c member
  refine beq_eq_false_iff_ne.mpr ?_
  rintro rfl
  rw [List.all_eq_true.mp all c member] at other
  cases other

/-- Whether a host is called by a name: its last part is no number. -/
def isNamed (host : String) : Bool :=
  match cutLast? (· == '.') host.toList with
  | some (_, label) => !label.all Char.isDigit
  | none => true

/-- A server that is called by a name, and may have a port. -/
structure NamedServer where
  /-- The scheme. -/
  scheme : String
  /-- The host. -/
  host : String
  /-- The port. -/
  port : Option Nat
  /-- The scheme is made of letters. -/
  letters : scheme.toList.all Char.isAlpha = true
  /-- Nothing in the host is a mark of a URL. -/
  unmarked : ':' ∉ host.toList ∧ '@' ∉ host.toList
  /-- The host has a name. -/
  named : isNamed host = true

namespace NamedServer

/-- The URL of a server. -/
def url (server : NamedServer) : String :=
  server.scheme ++ "://" ++ server.host ++ Server.portText server.port

/-- A port is nothing, or digits behind a colon; a point stands for the colon. -/
theorem port_cases (port : Option Nat) :
    (Server.portText port).toList = [] ∨
      ∃ digits, digits.all Char.isDigit = true ∧ (Server.portText port).toList = ':' :: digits ∧
        (Server.portText port).toList.map pointed = '.' :: digits := by
  unfold Server.portText
  split
  · exact Or.inl rfl
  · exact Or.inl rfl
  · next number _ =>
    have number' : ∀ c ∈ Nat.toDigits 10 number, c.isDigit = true :=
      fun c => Nat.isDigit_of_mem_toDigits (by decide) (by decide)
    have written : (":" ++ toString number).toList = ':' :: Nat.toDigits 10 number := by
      rw [String.toList_append]
      show [':'] ++ (String.ofList (Nat.toDigits 10 number)).toList = _
      rw [String.toList_ofList, List.singleton_append]
    refine Or.inr ⟨Nat.toDigits 10 number, List.all_eq_true.mpr number', written, ?_⟩
    rw [written, List.map_cons,
      map_pointed fun colon => absurd (number' _ colon) (by decide)]
    rfl

/-- What stands for the URL of a server. -/
theorem map_url (server : NamedServer) :
    server.url.toList.map pointed =
      server.scheme.toList ++ '.' :: '/' :: '/' ::
        (server.host.toList ++ (Server.portText server.port).toList.map pointed) := by
  have scheme : server.scheme.toList.map pointed = server.scheme.toList :=
    map_pointed fun colon => absurd (List.all_eq_true.mp server.letters _ colon) (by decide)
  have host : server.host.toList.map pointed = server.host.toList :=
    map_pointed server.unmarked.1
  have mark : "://".toList.map pointed = ['.', '/', '/'] := by decide
  simp only [url, String.toList_append, List.map_append, scheme, host, mark, List.append_assoc,
    List.cons_append, List.nil_append]

/-- The name of a host is not another text with a point and a number behind it. -/
theorem host_ne (server : NamedServer) (before digits : List Char)
    (number : digits.all Char.isDigit = true) :
    server.host.toList ≠ before ++ '.' :: digits := by
  intro same
  have named := server.named
  rw [isNamed, same, cutLast?_append (ne_of_all number rfl) rfl] at named
  simp only [number, Bool.not_true, Bool.false_eq_true] at named

/-- Host and port can be told from what stands for them. -/
theorem host_and_port {server other : NamedServer}
    (same : server.host.toList ++ (Server.portText server.port).toList.map pointed =
      other.host.toList ++ (Server.portText other.port).toList.map pointed) :
    server.host = other.host ∧ Server.portText server.port = Server.portText other.port := by
  rw [← String.toList_inj, ← String.toList_inj]
  rcases port_cases server.port with none | ⟨digits, number, port, mapped⟩ <;>
    rcases port_cases other.port with otherNone | ⟨otherDigits, otherNumber, otherPort, otherMapped⟩
  · rw [none, otherNone, List.map_nil, List.append_nil, List.append_nil] at same
    exact ⟨same, none.trans otherNone.symm⟩
  · rw [none, otherMapped, List.map_nil, List.append_nil] at same
    exact absurd same (server.host_ne _ _ otherNumber)
  · rw [mapped, otherNone, List.map_nil, List.append_nil] at same
    exact absurd same.symm (other.host_ne _ _ number)
  · rw [mapped, otherMapped] at same
    have cut := congrArg (cutLast? (· == '.')) same
    rw [cutLast?_append (ne_of_all number rfl) rfl, cutLast?_append (ne_of_all otherNumber rfl) rfl]
      at cut
    simp only [Option.some.injEq, Prod.mk.injEq] at cut
    exact ⟨cut.1, by rw [port, otherPort, cut.2]⟩

/-- The URL of a server can be told from what stands for it. -/
theorem url_eq_of_map {server other : NamedServer}
    (same : server.url.toList.map pointed = other.url.toList.map pointed) :
    server.url = other.url := by
  rw [map_url, map_url] at same
  have cut := congrArg (cutFirst? (· == '.')) same
  rw [cutFirst?_append (ne_of_all server.letters rfl) rfl,
    cutFirst?_append (ne_of_all other.letters rfl) rfl] at cut
  simp only [Option.some.injEq, Prod.mk.injEq, List.cons.injEq, true_and, String.toList_inj] at cut
  obtain ⟨scheme, place⟩ := cut
  obtain ⟨host, port⟩ := host_and_port place
  rw [url, url, scheme, host, port]

/-- There is no at sign in what stands for the URL of a server. -/
theorem unsigned_url (server : NamedServer) :
    ∀ c ∈ server.url.toList.map pointed, (c == '@') = false := by
  intro c member
  refine beq_eq_false_iff_ne.mpr ?_
  rintro rfl
  rw [map_url, List.mem_append, List.mem_cons, List.mem_cons, List.mem_cons, List.mem_append]
    at member
  rcases member with scheme | mark | mark | mark | host | port
  · exact absurd (List.all_eq_true.mp server.letters _ scheme) (by decide)
  · exact absurd mark (by decide)
  · exact absurd mark (by decide)
  · exact absurd mark (by decide)
  · exact server.unmarked.2 host
  · rcases port_cases server.port with none | ⟨digits, number, -, mapped⟩
    · rw [none] at port
      cases port
    · rw [mapped] at port
      rcases List.mem_cons.mp port with mark | digit
      · exact absurd mark (by decide)
      · exact absurd (List.all_eq_true.mp number _ digit) (by decide)

end NamedServer

/-- A user in small letters on a server with a name. -/
structure Session.Plain (session : Session) : Prop where
  /-- User and server are in small letters. -/
  small : Settings.optionName session.idOption = session.idOption
  /-- Nothing in the user ends the name of an option. -/
  uncut : ':' ∉ session.user.toList
  /-- The server has a name. -/
  server : ∃ server : NamedServer, session.url = server.url

/-- Plain users on plain servers have options of their own. -/
theorem Session.Plain.eq_of_option {session other : Session} (plain : session.Plain)
    (otherPlain : other.Plain)
    (same : Settings.optionName session.idOption = Settings.optionName other.idOption) :
    session.user = other.user ∧ session.url = other.url := by
  have written : ∀ session : Session, ':' ∉ session.user.toList →
      session.idOption.toList = session.user.toList ++ '@' :: session.url.toList.map pointed := by
    intro session uncut
    rw [Session.idOption, String.toList_ofList, Session.text, String.toList_append,
      String.toList_append, List.append_assoc, List.map_append]
    show session.user.toList.map pointed ++ '@' :: session.url.toList.map pointed = _
    rw [map_pointed uncut]
  obtain ⟨server, url⟩ := plain.server
  obtain ⟨otherServer, otherUrl⟩ := otherPlain.server
  rw [plain.small, otherPlain.small, ← String.toList_inj, written session plain.uncut,
    written other otherPlain.uncut, url, otherUrl] at same
  have cut := congrArg (cutLast? (· == '@')) same
  rw [cutLast?_append server.unsigned_url rfl, cutLast?_append otherServer.unsigned_url rfl] at cut
  simp only [Option.some.injEq, Prod.mk.injEq, String.toList_inj] at cut
  exact ⟨cut.1, by rw [url, otherUrl, NamedServer.url_eq_of_map cut.2]⟩

end Jobflow
