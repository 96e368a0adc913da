import Jobflow.Proofs.Settings.Lines
import Jobflow.Server.Address
import Jobflow.Proofs.Text.Lowercase

/-!
# Server URLs taken apart

A URL is judged by what stands between its scheme and the first slash, question mark or number
sign. Nothing in it may look like one of those marks, brackets come in pairs around an address, and
behind the last at sign there are a host and perhaps a port, which is a number up to 65535.

A URL without a host is refused. One that breaks another of these rules is not: it fails without a
word on the URL. Which of the three it comes to, being accepted, refused or failing, is told here of
every text.
-/

namespace Jobflow.Server

open Text (cutFirst? cutLast? cutFirst?_append cutFirst?_eq_some cutLast?_append cutLast?_eq_none_iff)

/-! ## Behind the scheme -/

/-- The scheme of a URL, or the default one if it names none. -/
def schemeOf (url : List Char) : List Char :=
  if hasScheme url then url.takeWhile Char.isAlpha else defaultScheme

/-- What follows the scheme of a URL, which is all of it if it names none. -/
def restOf (url : List Char) : List Char :=
  if hasScheme url then (url.drop (url.takeWhile Char.isAlpha).length).drop schemeMark.length
  else url

/-- Whether a character of a URL is kept: it is neither a tab nor a line end. -/
def isKept (c : Char) : Bool := c ≠ '\t' && c ≠ '\r' && c ≠ '\n'

/-- Whether a character can be in an authority. -/
def isInner (c : Char) : Bool := c ≠ '/' && c ≠ '?' && c ≠ '#'

/-- The authority of a URL. -/
def authorityOf (url : List Char) : List Char := ((restOf url).filter isKept).takeWhile isInner

/-- A URL consists of its scheme, the mark and the rest. -/
theorem withScheme_eq (url : List Char) :
    withScheme url = schemeOf url ++ (schemeMark ++ restOf url) := by
  unfold withScheme schemeOf restOf
  by_cases named : hasScheme url = true
  · rw [if_pos named, if_pos named, if_pos named]
    simp only [hasScheme, Bool.and_eq_true, List.isPrefixOf_iff_prefix] at named
    rw [List.prefix_iff_eq_append.mp named.2,
      List.prefix_iff_eq_append.mp (List.takeWhile_prefix Char.isAlpha)]
  · rw [if_neg named, if_neg named, if_neg named, List.append_assoc]

/-- A scheme is made of letters. -/
theorem all_schemeOf (url : List Char) : ∀ c ∈ schemeOf url, c.isAlpha = true := by
  unfold schemeOf
  split
  · exact fun c member => List.mem_takeWhile_imp member
  · exact List.all_eq_true.mp (by decide)

/-- A scheme is not empty. -/
theorem schemeOf_ne_nil (url : List Char) : schemeOf url ≠ [] := by
  unfold schemeOf
  split
  · next named =>
    simp only [hasScheme, Bool.and_eq_true, Bool.not_eq_true', List.isEmpty_eq_false_iff] at named
    exact named.1
  · decide

/-- Slashes at the end are dropped from the part behind a character that is none. -/
theorem rdropWhile_append_cons (before after : List Char) {c : Char} (other : c ≠ '/') :
    (before ++ c :: after).rdropWhile (· == '/') = before ++ c :: after.rdropWhile (· == '/') := by
  have stop : List.dropWhile (· == '/') (c :: before.reverse) = c :: before.reverse :=
    List.dropWhile_cons_of_neg (by simpa using other)
  unfold List.rdropWhile
  rw [List.reverse_append, List.reverse_cons, List.append_assoc, List.singleton_append,
    List.dropWhile_append, stop]
  split
  · next empty =>
    rw [List.isEmpty_iff.mp empty]
    simp
  · simp

/-- Slashes at the end of a URL do not count for its authority. -/
theorem takeWhile_isInner_rdropWhile (cs : List Char) :
    ((cs.rdropWhile (· == '/')).filter isKept).takeWhile isInner =
      (cs.filter isKept).takeWhile isInner := by
  have slashes : ((cs.rtakeWhile (· == '/')).filter isKept).takeWhile isInner = [] := by
    rw [List.takeWhile_eq_nil_iff]
    intro nonempty inner
    have member := List.mem_of_mem_filter (List.getElem_mem nonempty)
    have slash := beq_iff_eq.mp (List.mem_rtakeWhile_imp (p := (· == '/')) member)
    rw [List.get_eq_getElem, slash] at inner
    cases inner
  have whole := List.rdropWhile_append_rtakeWhile (p := (· == '/')) (l := cs)
  calc ((cs.rdropWhile (· == '/')).filter isKept).takeWhile isInner
      = ((cs.rdropWhile (· == '/') ++ cs.rtakeWhile (· == '/')).filter isKept).takeWhile isInner := by
        rw [List.filter_append, List.takeWhile_append, slashes, List.append_nil]
        split
        · next all => exact List.Sublist.eq_of_length (List.takeWhile_sublist _) all
        · rfl
    _ = (cs.filter isKept).takeWhile isInner := by rw [whole]

/-- Of a text behind two slashes these are dropped with the last ones, unless something is left. -/
theorem rdropWhile_slashes (cs : List Char) :
    ('/' :: '/' :: cs).rdropWhile (· == '/') =
      if (cs.rdropWhile (· == '/')).isEmpty then [] else '/' :: '/' :: cs.rdropWhile (· == '/') := by
  unfold List.rdropWhile
  rw [List.reverse_cons, List.reverse_cons, List.append_assoc, List.dropWhile_append,
    List.isEmpty_reverse]
  split
  · rfl
  · simp

/-- A letter is in ASCII. -/
theorem toNat_lt_of_isAlpha {c : Char} (letter : c.isAlpha = true) : c.toNat < 0x80 := by
  change (c.isUpper || c.isLower) = true at letter
  rcases Bool.or_eq_true_iff.mp letter with upper | lower
  · have bounds : 'A'.val ≤ c.val ∧ c.val ≤ 'Z'.val := of_decide_eq_true upper
    exact Nat.lt_of_le_of_lt (UInt32.le_iff_toNat_le.mp bounds.2) (by decide)
  · change (decide ('a'.val ≤ c.val) && decide (c.val ≤ 'z'.val)) = true at lower
    have last := of_decide_eq_true (Bool.and_eq_true_iff.mp lower).2
    exact Nat.lt_of_le_of_lt (UInt32.le_iff_toNat_le.mp last) (by decide)

/-- What holds of the letters of ASCII one by one holds of each letter. -/
theorem of_isAlpha {motive : Char → Prop}
    (checked : ∀ code < 0x80, (Char.ofNat code).isAlpha = true → motive (Char.ofNat code)) {c : Char}
    (letter : c.isAlpha = true) : motive c :=
  Text.of_ascii (motive := fun c => c.isAlpha = true → motive c) checked c
    (toNat_lt_of_isAlpha letter) letter

/-- The parts of a URL of letters, a colon and the rest. -/
theorem authority_eq {url scheme rest : List Char} (letters : ∀ c ∈ scheme, c.isAlpha = true)
    (clean : url.filter isKept = scheme ++ ':' :: rest) :
    authority url =
      (scheme.map Char.toLower,
        (if "//".toList.isPrefixOf rest then rest.drop 2 else []).takeWhile isInner) := by
  have uncut : ∀ c ∈ scheme, decide (c ≠ ':') = true := fun c member =>
    of_isAlpha (motive := fun c => decide (c ≠ ':') = true) (by decide) (letters c member)
  have cut : (scheme ++ ':' :: rest).takeWhile (· ≠ ':') = scheme := by
    rw [List.takeWhile_append_of_pos uncut, List.takeWhile_cons_of_neg (by decide), List.append_nil]
  have behind : (scheme ++ ':' :: rest).drop (scheme.length + 1) = rest := by
    rw [List.drop_append, List.drop_eq_nil_of_le (Nat.le_succ _), Nat.add_sub_cancel_left]
    rfl
  change (((url.filter isKept).takeWhile (· ≠ ':')).map Char.toLower,
    (if "//".toList.isPrefixOf
        ((url.filter isKept).drop (((url.filter isKept).takeWhile (· ≠ ':')).length + 1))
      then ((url.filter isKept).drop (((url.filter isKept).takeWhile (· ≠ ':')).length + 1)).drop 2
      else []).takeWhile isInner) = _
  rw [clean, cut, behind]

/-- The scheme and the authority of a URL without slashes at its end. -/
theorem authority_rdropWhile (url : List Char) :
    authority ((withScheme url).rdropWhile (· == '/')) =
      ((schemeOf url).map Char.toLower, authorityOf url) := by
  have letters := all_schemeOf url
  have kept : (schemeOf url).filter isKept = schemeOf url :=
    List.filter_eq_self.mpr fun c member =>
      of_isAlpha (motive := fun c => isKept c = true) (by decide) (letters c member)
  have clean : ((withScheme url).rdropWhile (· == '/')).filter isKept =
      schemeOf url ++ ':' :: (('/' :: '/' :: restOf url).rdropWhile (· == '/')).filter isKept := by
    rw [withScheme_eq]
    change ((schemeOf url ++ ':' :: '/' :: '/' :: restOf url).rdropWhile (· == '/')).filter isKept = _
    rw [rdropWhile_append_cons _ _ (by decide), List.filter_append, kept]
    rfl
  rw [authority_eq letters clean, authorityOf, ← takeWhile_isInner_rdropWhile, rdropWhile_slashes]
  split
  · next empty =>
    rw [List.isEmpty_iff.mp empty]
    rfl
  · rfl

/-! ## Host and port -/

/-- A text up to the first occurrence of a mark and the text behind that, or the whole text and
nothing. -/
inductive CutAt (mark : Char) : List Char → List Char → List Char → Prop
  /-- The mark is in the text. -/
  | found {before : List Char} (absent : mark ∉ before) (after : List Char) :
    CutAt mark (before ++ mark :: after) before after
  /-- The mark is not in the text. -/
  | whole {cs : List Char} (absent : mark ∉ cs) : CutAt mark cs cs []

/-- What is behind the last at sign of an authority, or all of it. -/
inductive PlaceIn : List Char → List Char → Prop
  /-- There is a user. -/
  | known (user : List Char) {place : List Char} (absent : '@' ∉ place) :
    PlaceIn (user ++ '@' :: place) place
  /-- There is no user. -/
  | unknown {place : List Char} (absent : '@' ∉ place) : PlaceIn place place

/-- The host and the port in a place. -/
inductive HostIn : List Char → List Char → List Char → Prop
  /-- The host is in brackets. What is around them does not count. -/
  | bracketed {before rest host behind between port : List Char} (first : '[' ∉ before)
    (inside : CutAt ']' rest host behind) (last : CutAt ':' behind between port) :
    HostIn (before ++ '[' :: rest) host port
  /-- The host is not in brackets. -/
  | bare {place host port : List Char} (absent : '[' ∉ place) (cut : CutAt ':' place host port) :
    HostIn place host port

/-- An authority leads to a host and a port. -/
def LeadsTo (authority host port : List Char) : Prop :=
  ∃ place, PlaceIn authority place ∧ HostIn place host port

/-- A character of a text without a mark is not the mark. -/
theorem beq_mark_eq_false {mark : Char} {cs : List Char} (absent : mark ∉ cs) :
    ∀ c ∈ cs, (c == mark) = false :=
  fun _ member => beq_eq_false_iff_ne.mpr fun same => absent (same ▸ member)

/-- So it is other than the mark. -/
theorem decide_ne_mark {mark : Char} {cs : List Char} (absent : mark ∉ cs) :
    ∀ c ∈ cs, decide (c ≠ mark) = true :=
  fun _ member => decide_eq_true fun same => absent (same ▸ member)

/-- A text without a mark is not cut. -/
theorem cutFirst?_of_not_mem {mark : Char} {cs : List Char} (absent : mark ∉ cs) :
    cutFirst? (· == mark) cs = none := by
  rw [Option.eq_none_iff_forall_ne_some]
  rintro ⟨before, after⟩ cut
  obtain ⟨c, is, split, -⟩ := cutFirst?_eq_some cut
  rw [split, ← beq_iff_eq.mp is] at absent
  exact absent (by simp)

/-- A text is cut at the first occurrence of a mark. -/
theorem cutFirst?_of_not_mem_before {mark : Char} {before : List Char} (absent : mark ∉ before)
    (after : List Char) :
    cutFirst? (· == mark) (before ++ mark :: after) = some (before, after) :=
  @cutFirst?_append (· == mark) before mark (beq_mark_eq_false absent) (beq_self_eq_true mark) after

/-- Every text is cut at a mark, in one way only. -/
theorem cutAt_iff (mark : Char) (cs before after : List Char) :
    CutAt mark cs before after ↔ cutOr (· == mark) cs = (before, after) := by
  unfold cutOr
  constructor
  · rintro (⟨absent, after⟩ | absent)
    · rw [cutFirst?_of_not_mem_before absent]
      rfl
    · rw [cutFirst?_of_not_mem absent]
      rfl
  · by_cases member : mark ∈ cs
    · obtain ⟨start, rest, rfl, absent⟩ := List.eq_append_cons_of_mem member
      rw [cutFirst?_of_not_mem_before absent]
      rintro ⟨⟩
      exact .found absent after
    · rw [cutFirst?_of_not_mem member]
      rintro ⟨⟩
      exact .whole member

/-- The place in an authority. -/
def placeOf (authority : List Char) : List Char :=
  match cutLast? (· == '@') authority with
  | none => authority
  | some (_, place) => place

/-- The host in a place and the text of its port. -/
def hostAt (place : List Char) : List Char × List Char :=
  match cutFirst? (· == '[') place with
  | some (_, bracketed) =>
    ((cutOr (· == ']') bracketed).1, (cutOr (· == ':') (cutOr (· == ']') bracketed).2).2)
  | none => cutOr (· == ':') place

/-- Every authority has one place. -/
theorem placeIn_iff (authority place : List Char) :
    PlaceIn authority place ↔ placeOf authority = place := by
  have cut (user : List Char) {place : List Char} (absent : '@' ∉ place) :
      placeOf (user ++ '@' :: place) = place := by
    rw [placeOf, cutLast?_append (beq_mark_eq_false absent) rfl]
  have uncut {place : List Char} (absent : '@' ∉ place) : placeOf place = place := by
    rw [placeOf, (cutLast?_eq_none_iff (· == '@') place).mpr (beq_mark_eq_false absent)]
  constructor
  · rintro (⟨user, absent⟩ | absent)
    · exact cut user absent
    · exact uncut absent
  · rintro rfl
    by_cases member : '@' ∈ authority
    · obtain ⟨last, start, split, absent⟩ :=
        List.eq_append_cons_of_mem (List.mem_reverse.mpr member)
      have whole : authority = start.reverse ++ '@' :: last.reverse := by
        rw [← List.reverse_reverse authority, split]
        simp
      rw [← List.mem_reverse] at absent
      rw [whole, cut _ absent]
      exact .known _ absent
    · rw [uncut member]
      exact .unknown member

/-- Every place has one host and port. -/
theorem hostIn_iff (place host port : List Char) :
    HostIn place host port ↔ hostAt place = (host, port) := by
  unfold hostAt
  constructor
  · rintro (⟨first, inside, last⟩ | ⟨absent, cut⟩)
    · rw [cutAt_iff] at inside last
      rw [cutFirst?_of_not_mem_before first]
      dsimp only
      rw [inside, last]
    · rw [cutFirst?_of_not_mem absent]
      exact (cutAt_iff ..).mp cut
  · by_cases member : '[' ∈ place
    · obtain ⟨before, rest, rfl, first⟩ := List.eq_append_cons_of_mem member
      rw [cutFirst?_of_not_mem_before first]
      rintro ⟨⟩
      exact .bracketed first ((cutAt_iff ..).mpr rfl) ((cutAt_iff ..).mpr rfl)
    · rw [cutFirst?_of_not_mem member]
      intro cut
      exact .bare member ((cutAt_iff ..).mpr cut)

/-- Every authority leads to one host and port. -/
theorem leadsTo_iff (authority host port : List Char) :
    LeadsTo authority host port ↔ hostOf authority = (host, port) := by
  have parts : hostOf authority = hostAt (placeOf authority) := rfl
  rw [parts, ← hostIn_iff]
  constructor
  · rintro ⟨place, inside, host⟩
    rwa [(placeIn_iff authority place).mp inside]
  · intro host
    exact ⟨placeOf authority, (placeIn_iff authority _).mpr rfl, host⟩

/-! ## Authorities that cannot be taken apart -/

/-- What an authority cannot be taken apart for. -/
inductive Broken (authority : List Char) : Prop
  /-- There are opening brackets but no closing ones, or the other way around. -/
  | unpaired (one : ¬ ('[' ∈ authority ↔ ']' ∈ authority))
  /-- There is no address between the first opening bracket and the next closing one. -/
  | noAddress {before rest inside behind : List Char} (first : '[' ∉ before)
    (whole : authority = before ++ '[' :: rest) (closed : ']' ∈ authority)
    (cut : CutAt ']' rest inside behind) (other : isBracketed inside = false)
  /-- Something looks like a mark of URLs. -/
  | hiddenMark {c : Char} (member : c ∈ authority) (hidden : c.toNat ∈ hiddenMarks)

/-- What is before the cut has no mark. -/
theorem CutAt.takeWhile_eq {mark : Char} {cs before after : List Char}
    (cut : CutAt mark cs before after) : cs.takeWhile (· ≠ mark) = before := by
  cases cut with
  | found absent after =>
    rw [List.takeWhile_append_of_pos (decide_ne_mark absent), List.takeWhile_cons_of_neg (by simp),
      List.append_nil]
  | whole absent => exact List.takeWhile_eq_self_iff.mpr (decide_ne_mark absent)

/-- Brackets are in order if there is an address in the first ones. -/
theorem bracketsInOrder_of_pair {before rest inside behind : List Char} (first : '[' ∉ before)
    (closed : ']' ∈ before ++ '[' :: rest) (cut : CutAt ']' rest inside behind) :
    bracketsInOrder (before ++ '[' :: rest) = isBracketed inside := by
  have opened : (before ++ '[' :: rest).contains '[' = true := by simp
  have behindFirst : ((before ++ '[' :: rest).dropWhile (· ≠ '[')).drop 1 = rest := by
    rw [List.dropWhile_append_of_pos (decide_ne_mark first), List.dropWhile_cons_of_neg (by simp)]
    rfl
  rw [bracketsInOrder, opened, List.contains_iff_mem.mpr closed, behindFirst, cut.takeWhile_eq]
  rfl

/-- Brackets are in order if there are none, and not if they are of one kind. -/
theorem bracketsInOrder_of_not_pair {authority : List Char}
    (notPair : ¬ ('[' ∈ authority ∧ ']' ∈ authority)) :
    bracketsInOrder authority = true ↔ ('[' ∈ authority ↔ ']' ∈ authority) := by
  unfold bracketsInOrder
  by_cases opened : '[' ∈ authority
  · have closed : ']' ∉ authority := fun closed => notPair ⟨opened, closed⟩
    simp [opened, closed]
  · simp [opened]

/-- Authorities are taken apart unless they are broken. -/
theorem isSplittable_iff (authority : List Char) :
    isSplittable authority = false ↔ Broken authority := by
  have hides : (authority.any fun c => hiddenMarks.contains c.toNat) = true ↔
      ∃ c ∈ authority, c.toNat ∈ hiddenMarks := by
    simp
  rw [isSplittable, Bool.and_eq_false_iff, Bool.not_eq_false', hides]
  by_cases pair : '[' ∈ authority ∧ ']' ∈ authority
  · obtain ⟨opened, closed⟩ := pair
    obtain ⟨before, rest, rfl, first⟩ := List.eq_append_cons_of_mem opened
    constructor
    · rintro (unordered | ⟨c, member, hidden⟩)
      · have cut := (cutAt_iff ']' rest _ _).mpr rfl
        rw [bracketsInOrder_of_pair first closed cut] at unordered
        exact .noAddress first rfl closed cut unordered
      · exact .hiddenMark member hidden
    · rintro (one | ⟨otherFirst, whole, -, cut, other⟩ | ⟨member, hidden⟩)
      · exact absurd (iff_of_true opened closed) one
      · rw [whole] at closed ⊢
        rw [bracketsInOrder_of_pair otherFirst closed cut]
        exact .inl other
      · exact .inr ⟨_, member, hidden⟩
  · rw [Bool.eq_false_iff, Ne, bracketsInOrder_of_not_pair pair]
    constructor
    · rintro (one | ⟨c, member, hidden⟩)
      · exact .unpaired one
      · exact .hiddenMark member hidden
    · rintro (one | ⟨-, rfl, closed, -, -⟩ | ⟨member, hidden⟩)
      · exact .inl one
      · exact absurd ⟨by simp, closed⟩ pair
      · exact .inr ⟨_, member, hidden⟩

/-- A port is nothing, or the digits of a number that is not too large. -/
structure IsPort (port : List Char) : Prop where
  /-- It consists of digits. -/
  digits : ∀ c ∈ port, c.isDigit = true
  /-- There are sixteen bits for it. -/
  bound : Nat.ofDigitChars 10 port 0 ≤ 65535

/-- The number of a port, if there is one. -/
def portNumber (port : List Char) : Option Nat :=
  if port.isEmpty then none else some (Nat.ofDigitChars 10 port 0)

/-- Ports are numbers. -/
theorem portOf_of_isPort {port : List Char} (number : IsPort port) :
    portOf port = .ok (portNumber port) := by
  have digits : port.all Char.isDigit = true := List.all_eq_true.mpr number.digits
  unfold portOf portNumber
  split
  · rfl
  · rw [digits, Bool.not_true, if_neg Bool.false_ne_true]
    exact if_pos number.bound

/-- Other texts are not. -/
theorem portOf_of_not_isPort {port : List Char} (other : ¬ IsPort port) :
    portOf port = .error .badValue := by
  unfold portOf
  split
  · next empty =>
    rw [List.isEmpty_iff.mp empty] at other
    exact absurd ⟨nofun, by decide⟩ other
  · by_cases digits : port.all Char.isDigit = true
    · rw [digits, Bool.not_true, if_neg Bool.false_ne_true]
      refine if_neg fun bound => ?_
      exact other ⟨List.all_eq_true.mp digits, bound⟩
    · rw [Bool.eq_false_iff.mpr digits]
      rfl

/-! ## What a URL comes to -/

/-- What can become of a URL. -/
inductive Verdict
  /-- It is accepted. -/
  | accepted
  /-- It is refused. -/
  | refused
  /-- It fails otherwise. -/
  | failed

/-- What becomes of a URL with an authority. -/
inductive Judged (authority : List Char) : Verdict → Prop
  /-- It has a host, and nothing is wrong with it. -/
  | accepted {host port : List Char} (whole : ¬ Broken authority)
    (leads : LeadsTo authority host port) (named : host ≠ []) (number : IsPort port) :
    Judged authority .accepted
  /-- It has no host. Then the port does not matter. -/
  | refused {port : List Char} (whole : ¬ Broken authority) (leads : LeadsTo authority [] port) :
    Judged authority .refused
  /-- It cannot be taken apart. -/
  | broken (broken : Broken authority) : Judged authority .failed
  /-- It has a host, but the port is no number that ports can have. -/
  | badPort {host port : List Char} (whole : ¬ Broken authority)
    (leads : LeadsTo authority host port) (named : host ≠ []) (other : ¬ IsPort port) :
    Judged authority .failed

/-- The address in a URL with a host and a port. -/
def addressOf (url host : List Char) (port : Option Nat) : Address where
  user := (userOf (authorityOf url)).1
  password := (userOf (authorityOf url)).2
  url := String.ofList ((schemeOf url).map Char.toLower) ++ "://" ++ lowerHost host ++ portText port

/-- A URL is judged by its authority, and that by its parts in turn. -/
theorem ofUrl_eq {url : String} {host port : List Char}
    (leads : LeadsTo (authorityOf url.toList) host port) :
    Address.ofUrl url =
      if isSplittable (authorityOf url.toList) = false then .error (.mishap .badValue)
      else if host = [] then
        .error (.refused (.malformedUrl (String.ofList (withScheme url.toList))))
      else ((portOf port).mapError Fault.mishap).map (addressOf url.toList host) := by
  have parts := authority_rdropWhile url.toList
  unfold List.rdropWhile at parts
  unfold Address.ofUrl
  dsimp only
  rw [parts]
  dsimp only
  rw [(leadsTo_iff ..).mp leads]
  cases isSplittable (authorityOf url.toList) with
  | false => rfl
  | true =>
    cases host with
    | nil => rfl
    | cons c rest =>
      cases portOf port <;> rfl

/-- An authority leads to one host and port at most. -/
theorem LeadsTo.unique {authority host port otherHost otherPort : List Char}
    (leads : LeadsTo authority host port) (also : LeadsTo authority otherHost otherPort) :
    host = otherHost ∧ port = otherPort := by
  rw [leadsTo_iff] at leads also
  rw [leads] at also
  exact Prod.mk.inj also

/-- Every authority leads to some host and port, which may be empty. -/
theorem exists_leadsTo (authority : List Char) : ∃ host port, LeadsTo authority host port :=
  ⟨(hostOf authority).1, (hostOf authority).2, (leadsTo_iff ..).mpr rfl⟩

/-- There is a verdict on every authority. -/
theorem exists_judged (authority : List Char) : ∃ verdict, Judged authority verdict := by
  by_cases broken : Broken authority
  · exact ⟨_, .broken broken⟩
  · obtain ⟨host, port, leads⟩ := exists_leadsTo authority
    by_cases nameless : host = []
    · rw [nameless] at leads
      exact ⟨_, .refused broken leads⟩
    · by_cases number : IsPort port
      · exact ⟨_, .accepted broken leads nameless number⟩
      · exact ⟨_, .badPort broken leads nameless number⟩

/-- The accepted URLs and their addresses. -/
theorem ofUrl_eq_ok_iff (url : String) (address : Address) :
    Address.ofUrl url = .ok address ↔
      ¬ Broken (authorityOf url.toList) ∧
        ∃ host port, LeadsTo (authorityOf url.toList) host port ∧ host ≠ [] ∧ IsPort port ∧
          address = addressOf url.toList host (portNumber port) := by
  obtain ⟨host, port, leads⟩ := exists_leadsTo (authorityOf url.toList)
  rw [ofUrl_eq leads, ← isSplittable_iff]
  constructor
  · intro accepted
    split at accepted
    · cases accepted
    · next whole =>
      split at accepted
      · cases accepted
      · next named =>
        by_cases number : IsPort port
        · rw [portOf_of_isPort number] at accepted
          cases accepted
          exact ⟨whole, host, port, leads, named, number, rfl⟩
        · rw [portOf_of_not_isPort number] at accepted
          cases accepted
  · rintro ⟨whole, otherHost, otherPort, also, named, number, rfl⟩
    obtain ⟨rfl, rfl⟩ := leads.unique also
    rw [if_neg whole, if_neg named, portOf_of_isPort number]
    rfl

/-- A URL comes to what it is judged to. -/
theorem ofUrl_of_judged {url : String} {verdict : Verdict}
    (judged : Judged (authorityOf url.toList) verdict) :
    match verdict with
    | .accepted => ∃ address, Address.ofUrl url = .ok address
    | .refused => Address.ofUrl url =
        .error (.refused (.malformedUrl (String.ofList (withScheme url.toList))))
    | .failed => Address.ofUrl url = .error (.mishap .badValue) := by
  cases judged with
  | accepted whole leads named number =>
    exact ⟨_, (ofUrl_eq_ok_iff ..).mpr ⟨whole, _, _, leads, named, number, rfl⟩⟩
  | refused whole leads =>
    rw [← isSplittable_iff] at whole
    dsimp only
    rw [ofUrl_eq leads, if_neg whole, if_pos rfl]
  | broken broken =>
    obtain ⟨host, port, leads⟩ := exists_leadsTo (authorityOf url.toList)
    dsimp only
    rw [ofUrl_eq leads, if_pos ((isSplittable_iff _).mpr broken)]
  | badPort whole leads named other =>
    rw [← isSplittable_iff] at whole
    dsimp only
    rw [ofUrl_eq leads, if_neg whole, if_neg named, portOf_of_not_isPort other]
    rfl

/-- There is only one verdict on an authority. -/
theorem Judged.unique {authority : List Char} {verdict other : Verdict}
    (judged : Judged authority verdict) (also : Judged authority other) : verdict = other := by
  cases judged with
  | accepted whole leads named number =>
    cases also with
    | accepted => rfl
    | refused _ nowhere => exact absurd (leads.unique nowhere).1 named
    | broken broken => exact absurd broken whole
    | badPort _ alsoLeads _ noNumber => exact absurd ((leads.unique alsoLeads).2 ▸ number) noNumber
  | refused whole nowhere =>
    cases also with
    | accepted _ leads named => exact absurd (leads.unique nowhere).1 named
    | refused => rfl
    | broken broken => exact absurd broken whole
    | badPort _ leads named => exact absurd (leads.unique nowhere).1 named
  | broken broken =>
    cases also with
    | accepted whole => exact absurd broken whole
    | refused whole => exact absurd broken whole
    | broken => rfl
    | badPort => rfl
  | badPort whole leads named noNumber =>
    cases also with
    | accepted _ alsoLeads _ number => exact absurd ((leads.unique alsoLeads).2 ▸ number) noNumber
    | refused _ nowhere => exact absurd (leads.unique nowhere).1 named
    | broken => rfl
    | badPort => rfl

/-- What becomes of a URL, be it any text. It is accepted, or refused as malformed for want of a
host; or it fails with an error that is no refusal, exactly if its authority is broken or its host
has a port that is no number up to 65535. -/
theorem ofUrl_outcome (url : String) :
    ((∃ address, Address.ofUrl url = .ok address) ↔ Judged (authorityOf url.toList) .accepted) ∧
      ∀ fault, Address.ofUrl url = .error fault ↔
        fault = .refused (.malformedUrl (String.ofList (withScheme url.toList))) ∧
            Judged (authorityOf url.toList) .refused ∨
          fault = .mishap .badValue ∧ Judged (authorityOf url.toList) .failed := by
  obtain ⟨verdict, judged⟩ := exists_judged (authorityOf url.toList)
  have other {wrong : Verdict} (different : verdict ≠ wrong) :
      ¬ Judged (authorityOf url.toList) wrong := fun also => different (judged.unique also)
  have outcome := ofUrl_of_judged judged
  cases verdict with
  | accepted =>
    obtain ⟨address, accepted⟩ := outcome
    refine ⟨iff_of_true ⟨address, accepted⟩ judged, fun fault => ?_⟩
    rw [accepted]
    simp [other]
  | refused =>
    rw [show Address.ofUrl url = _ from outcome]
    simp [other, judged, eq_comm]
  | failed =>
    rw [show Address.ofUrl url = _ from outcome]
    simp [other, judged, eq_comm]

/-- A port that is no number, one that is too large, a bracket that is not closed and brackets
around a name are all not refused. -/
theorem ofUrl_unrefused :
    Address.ofUrl "http://server:abc" = .error (.mishap .badValue) ∧
      Address.ofUrl "http://server:65536" = .error (.mishap .badValue) ∧
      Address.ofUrl "http://[::1" = .error (.mishap .badValue) ∧
      Address.ofUrl "http://[server]" = .error (.mishap .badValue) :=
  ⟨rfl, rfl, rfl, rfl⟩

end Jobflow.Server
