import Jobflow.Proofs.Server.Authority

/-!
# Addresses that are given again

The address in a URL is a URL, too. It is in normal form if it comes to itself and to the same
scheme, host and port. That is so exactly if the host has neither a colon nor a bracket, as it is
with names and with addresses of four numbers: nothing else in a host is a mark of URLs, and small
letters stay small.

An address of eight groups has colons. Its brackets are taken off with the other marks, but are not
put back, so that it is cut at its first colon when it is given again.
-/

namespace Jobflow.Server

open Text (isUncased lowerAfter)

/-! ## Hosts in small letters -/

/-- A host in small letters consists of what is before the percent sign, and the rest. -/
theorem toList_lowerHost (host : List Char) :
    (lowerHost host).toList =
      lowerAfter [] (host.takeWhile (· ≠ '%')) ++ host.dropWhile (· ≠ '%') := by
  rw [lowerHost, Text.lower, String.toList_append, String.toList_ofList, String.toList_ofList,
    String.toList_ofList]

/-- A character without case that is in the small form of a host is in the host. -/
theorem mem_of_mem_lowerHost {host : List Char} {c : Char} (member : c ∈ (lowerHost host).toList)
    (uncased : isUncased c = true) : c ∈ host := by
  rw [toList_lowerHost, List.mem_append] at member
  rcases member with lowered | zone
  · exact (List.takeWhile_sublist _).mem (Text.mem_of_mem_lowerAfter lowered uncased)
  · exact (List.dropWhile_sublist _).mem zone

/-- Hidden marks are no images of capital letters. -/
theorem hiddenMarks_spared : ∀ code ∈ hiddenMarks, 0x80 ≤ code ∧ code ≠ 0x307 ∧ code ≠ 0x3c2 ∧
    ∀ run ∈ Text.capitalRuns, code < run.image ∨ run.lastImage < code := by
  decide +kernel

/-- A hidden mark that is in the small form of a host is in the host. -/
theorem hidden_of_mem_lowerHost {host : List Char} {c : Char}
    (member : c ∈ (lowerHost host).toList) (hidden : c.toNat ∈ hiddenMarks) : c ∈ host := by
  obtain ⟨wide, undotted, noSigma, spared⟩ := hiddenMarks_spared _ hidden
  rw [toList_lowerHost, List.mem_append] at member
  rcases member with lowered | zone
  · rcases Text.exists_of_mem_lowerAfter lowered with rfl | ⟨d, inside, turns⟩
    · exact absurd rfl noSigma
    · rw [Text.eq_of_mem_lowerChar_of_spared turns wide undotted spared]
      exact (List.takeWhile_sublist _).mem inside
  · exact (List.dropWhile_sublist _).mem zone

/-- A host in small letters stays as it is. -/
theorem lowerHost_lowerHost (host : List Char) :
    lowerHost (lowerHost host).toList = lowerHost host := by
  have unzoned : ∀ c ∈ lowerAfter [] (host.takeWhile (· ≠ '%')), decide (c ≠ '%') = true := by
    intro c member
    refine decide_eq_true ?_
    rintro rfl
    have percent := List.mem_takeWhile_imp (Text.mem_of_mem_lowerAfter member (by decide))
    exact absurd percent (by decide)
  have zone : (host.dropWhile (· ≠ '%')).takeWhile (· ≠ '%') = [] :=
    List.takeWhile_eq_nil_iff.mpr fun nonempty => List.dropWhile_get_zero_not _ _ nonempty
  rw [← String.toList_inj, toList_lowerHost, toList_lowerHost, List.takeWhile_append_of_pos unzoned,
    List.dropWhile_append_of_pos unzoned, zone, List.append_nil, List.dropWhile_idempotent,
    Text.lowerAfter_of_small fun c member => Text.isSmall_of_mem_lowerAfter member]

/-- Only an empty host has an empty small form. -/
theorem lowerHost_ne_nil {host : List Char} (named : host ≠ []) : (lowerHost host).toList ≠ [] := by
  rw [toList_lowerHost]
  intro empty
  obtain ⟨lowered, zone⟩ := List.append_eq_nil_iff.mp empty
  by_cases start : host.takeWhile (· ≠ '%') = []
  · have whole := List.takeWhile_append_dropWhile (p := (· ≠ '%')) (l := host)
    rw [start, zone] at whole
    exact named whole.symm
  · exact Text.lowerAfter_ne_nil start lowered

/-! ## Ports -/

/-- What is behind a host: nothing, or a colon and the digits of a port that is not zero. -/
theorem portText_cases (port : Option Nat) :
    port.filter (· ≠ 0) = none ∧ (portText port).toList = [] ∨
      ∃ number, port.filter (· ≠ 0) = some number ∧
        (portText port).toList = ':' :: Nat.toDigits 10 number := by
  rcases port with _ | _ | number
  · exact .inl ⟨rfl, rfl⟩
  · exact .inl ⟨rfl, rfl⟩
  · refine .inr ⟨number + 1, rfl, ?_⟩
    change (":" ++ String.ofList (Nat.toDigits 10 (number + 1))).toList = _
    rw [String.toList_append]
    change ':' :: (String.ofList (Nat.toDigits 10 (number + 1))).toList = _
    rw [String.toList_ofList]

/-- Only a colon and digits are behind a host. -/
theorem eq_or_isDigit_of_mem_portText {port : Option Nat} {c : Char}
    (member : c ∈ (portText port).toList) : c = ':' ∨ c.isDigit = true := by
  rcases portText_cases port with ⟨-, empty⟩ | ⟨number, -, written⟩
  · rw [empty] at member
    cases member
  · rw [written, List.mem_cons] at member
    exact member.imp_right (Nat.isDigit_of_mem_toDigits (by decide) (by decide))

/-- What is neither a colon nor a digit is in the host, if it is in host and port. -/
theorem mem_host_iff {host : String} (port : Option Nat) {c : Char} (other : c ≠ ':')
    (noDigit : c.isDigit = false) :
    c ∈ host.toList ++ (portText port).toList ↔ c ∈ host.toList := by
  rw [List.mem_append]
  refine or_iff_left fun behind => ?_
  rcases eq_or_isDigit_of_mem_portText behind with colon | digit
  · exact other colon
  · rw [noDigit] at digit
    cases digit

/-- A port that is zero is written like none. -/
theorem portText_filter (port : Option Nat) : portText (port.filter (· ≠ 0)) = portText port := by
  rcases port with _ | _ | number <;> rfl

/-- The digits of a number are a port, if the number is not too large. -/
theorem isPort_toDigits {number : Nat} (bound : number ≤ 65535) :
    IsPort (Nat.toDigits 10 number) where
  digits _ := Nat.isDigit_of_mem_toDigits (by decide) (by decide)
  bound := by rwa [Nat.ofDigitChars_ten_toDigits]

/-- They are those of the number. -/
theorem portNumber_toDigits (number : Nat) : portNumber (Nat.toDigits 10 number) = some number := by
  rw [portNumber, List.isEmpty_eq_false_iff.mpr Nat.toDigits_ne_nil, if_neg Bool.false_ne_true,
    Nat.ofDigitChars_ten_toDigits]

/-- A port has sixteen bits. -/
theorem IsPort.number_le {port : List Char} (isPort : IsPort port) {number : Nat}
    (is : (portNumber port).filter (· ≠ 0) = some number) : number ≤ 65535 := by
  obtain ⟨known, -⟩ := Option.filter_eq_some_iff.mp is
  unfold portNumber at known
  split at known
  · cases known
  · cases known
    exact isPort.bound

/-! ## Hosts in authorities -/

/-- What is before a cut is in the text. -/
theorem CutAt.mem {mark : Char} {cs before after : List Char} (cut : CutAt mark cs before after) :
    ∀ c ∈ before, c ∈ cs := by
  cases cut with
  | found absent after => exact fun c => List.mem_append_left _
  | whole absent => exact fun c => id

/-- The mark is not before a cut at it. -/
theorem CutAt.not_mem {mark : Char} {cs before after : List Char}
    (cut : CutAt mark cs before after) : mark ∉ before := by
  cases cut with
  | found absent after => exact absent
  | whole absent => exact absent

/-- A host is in its authority, and no at sign is in it. -/
theorem LeadsTo.mem_authority {authority host port : List Char}
    (leads : LeadsTo authority host port) : ∀ c ∈ host, c ∈ authority ∧ c ≠ '@' := by
  obtain ⟨place, inside, parts⟩ := leads
  have placed : ∀ c ∈ host, c ∈ place := by
    rintro c member
    cases parts with
    | bracketed first cut last =>
      exact List.mem_append_right _ (List.mem_cons_of_mem _ (cut.mem c member))
    | bare absent cut => exact cut.mem c member
  intro c member
  cases inside with
  | known user absent =>
    exact ⟨List.mem_append_right _ (List.mem_cons_of_mem _ (placed c member)),
      fun same => absent (same ▸ placed c member)⟩
  | unknown absent => exact ⟨placed c member, fun same => absent (same ▸ placed c member)⟩

/-- A host has brackets of one kind at most. -/
theorem LeadsTo.not_paired {authority host port : List Char}
    (leads : LeadsTo authority host port) : ¬ ('[' ∈ host ∧ ']' ∈ host) := by
  rintro ⟨opened, closed⟩
  obtain ⟨place, -, parts⟩ := leads
  cases parts with
  | bracketed first cut last => exact cut.not_mem closed
  | bare absent cut => exact absent (cut.mem _ opened)

/-- A host that is not in brackets is cut at the first colon. -/
theorem LeadsTo.colon_not_mem {authority host port : List Char}
    (leads : LeadsTo authority host port) (unopened : '[' ∉ authority) : ':' ∉ host := by
  obtain ⟨place, inside, parts⟩ := leads
  have placed : ∀ c ∈ place, c ∈ authority := by
    cases inside with
    | known user absent => exact fun c member => List.mem_append_right _ (List.mem_cons_of_mem _ member)
    | unknown absent => exact fun c => id
  cases parts with
  | bracketed first cut last => exact absurd (placed _ (by simp)) unopened
  | bare absent cut => exact cut.not_mem

/-! ## Plain characters -/

/-- A character that a host can have: it stays in the authority, is no at sign and hides no mark. -/
structure Plain (c : Char) : Prop where
  /-- It is kept. -/
  kept : isKept c = true
  /-- It can be in an authority. -/
  inner : isInner c = true
  /-- It is no at sign. -/
  unsigned : c ≠ '@'
  /-- It hides no mark. -/
  visible : c.toNat ∉ hiddenMarks

/-- Only tabs and line ends are not kept. -/
theorem eq_of_not_isKept {c : Char} (dropped : ¬ isKept c = true) : c = '\t' ∨ c = '\r' ∨ c = '\n' := by
  simpa only [isKept, Bool.and_eq_true, decide_eq_true_eq, not_and_or, not_not, or_assoc]
    using dropped

/-- Only three marks cannot be in an authority. -/
theorem eq_of_not_isInner {c : Char} (outer : ¬ isInner c = true) : c = '/' ∨ c = '?' ∨ c = '#' := by
  simpa only [isInner, Bool.and_eq_true, decide_eq_true_eq, not_and_or, not_not, or_assoc]
    using outer

/-- A digit is plain. -/
theorem plain_of_isDigit {c : Char} (digit : c.isDigit = true) : Plain c where
  kept := by
    by_contra dropped
    rcases eq_of_not_isKept dropped with rfl | rfl | rfl <;> exact absurd digit (by decide)
  inner := by
    by_contra outer
    rcases eq_of_not_isInner outer with rfl | rfl | rfl <;> exact absurd digit (by decide)
  unsigned := by
    rintro rfl
    exact absurd digit (by decide)
  visible := by
    intro hidden
    have wide := (hiddenMarks_spared _ hidden).1
    simp only [Char.isDigit, Bool.and_eq_true, decide_eq_true_eq, ge_iff_le,
      UInt32.le_iff_toNat_le] at digit
    have nine : '9'.val.toNat = 0x39 := rfl
    have same : c.toNat = c.val.toNat := rfl
    omega

/-- The characters of a host are plain, as the authority is not broken. -/
theorem LeadsTo.plain {url host port : List Char} (whole : ¬ Broken (authorityOf url))
    (leads : LeadsTo (authorityOf url) host port) : ∀ c ∈ host, Plain c := by
  intro c member
  obtain ⟨inside, unsigned⟩ := leads.mem_authority c member
  exact
    { kept := List.of_mem_filter ((List.takeWhile_sublist _).mem inside)
      inner := List.mem_takeWhile_imp inside
      unsigned
      visible := fun hidden => whole (.hiddenMark inside hidden) }

/-- They are plain in small letters, too. -/
theorem plain_lowerHost {host : List Char} (plain : ∀ c ∈ host, Plain c) :
    ∀ c ∈ (lowerHost host).toList, Plain c := by
  intro c member
  have marked (uncased : isUncased c = true) : Plain c :=
    plain c (mem_of_mem_lowerHost member uncased)
  constructor
  · by_contra dropped
    refine dropped (marked ?_).kept
    rcases eq_of_not_isKept dropped with rfl | rfl | rfl <;> decide
  · by_contra outer
    refine outer (marked ?_).inner
    rcases eq_of_not_isInner outer with rfl | rfl | rfl <;> decide
  · rintro rfl
    exact (marked (by decide)).unsigned rfl
  · exact fun hidden => (plain c (hidden_of_mem_lowerHost member hidden)).visible hidden

/-- A colon and digits are plain. -/
theorem plain_portText (port : Option Nat) : ∀ c ∈ (portText port).toList, Plain c := by
  intro c member
  rcases eq_or_isDigit_of_mem_portText member with rfl | digit
  · exact ⟨by decide, by decide, by decide, by decide⟩
  · exact plain_of_isDigit digit

/-! ## Addresses -/

/-- A URL names a server: a scheme and a host in small letters, and a port that is not zero. -/
structure Names (url scheme host : String) (port : Option Nat) : Prop where
  /-- The scheme is the one of the URL. -/
  scheme_eq : scheme = String.ofList ((schemeOf url.toList).map Char.toLower)
  /-- Host and port are where the URL leads to. -/
  place : ∃ name digits, LeadsTo (authorityOf url.toList) name digits ∧ host = lowerHost name ∧
    port = (portNumber digits).filter (· ≠ 0)

/-- A host without the marks that cut an authority. -/
structure Unmarked (host : String) : Prop where
  /-- There is no colon. -/
  colon : ':' ∉ host.toList
  /-- There is no opening bracket. -/
  opening : '[' ∉ host.toList
  /-- There is no closing bracket. -/
  closing : ']' ∉ host.toList

/-- The scheme and the rest of a URL that starts with letters and the mark. -/
theorem parts_of_letters {scheme : List Char} (letters : ∀ c ∈ scheme, c.isAlpha = true)
    (named : scheme ≠ []) (rest : List Char) :
    schemeOf (scheme ++ (schemeMark ++ rest)) = scheme ∧
      restOf (scheme ++ (schemeMark ++ rest)) = rest := by
  have start : (scheme ++ (schemeMark ++ rest)).takeWhile Char.isAlpha = scheme := by
    rw [List.takeWhile_append_of_pos letters]
    exact List.append_nil scheme
  have has : hasScheme (scheme ++ (schemeMark ++ rest)) = true := by
    simp only [hasScheme, start, Bool.and_eq_true, List.isPrefixOf_iff_prefix, List.drop_left]
    refine ⟨?_, List.prefix_append _ _⟩
    rw [Bool.not_eq_true', List.isEmpty_eq_false_iff]
    exact named
  rw [schemeOf, restOf, if_pos has, if_pos has, start, List.drop_left, List.drop_left]
  exact ⟨rfl, rfl⟩

/-- The address in a URL says what it is made of. -/
theorem parts_of_address (url host : List Char) (plain : ∀ c ∈ host, Plain c) (port : Option Nat) :
    (schemeOf (addressOf url host port).url.toList).map Char.toLower =
        (schemeOf url).map Char.toLower ∧
      authorityOf (addressOf url host port).url.toList =
        (lowerHost host).toList ++ (portText port).toList := by
  have letters : ∀ c ∈ (schemeOf url).map Char.toLower, c.isAlpha = true := by
    intro c member
    obtain ⟨letter, inside, rfl⟩ := List.mem_map.mp member
    exact of_isAlpha (motive := fun c => c.toLower.isAlpha = true) (by decide)
      (all_schemeOf url letter inside)
  have small : ((schemeOf url).map Char.toLower).map Char.toLower =
      (schemeOf url).map Char.toLower := by
    rw [List.map_map]
    exact List.map_congr_left fun c member =>
      of_isAlpha (motive := fun c => c.toLower.toLower = c.toLower) (by decide)
        (all_schemeOf url c member)
  have named : (schemeOf url).map Char.toLower ≠ [] :=
    fun empty => schemeOf_ne_nil url (List.map_eq_nil_iff.mp empty)
  have written : (addressOf url host port).url.toList = (schemeOf url).map Char.toLower ++
      (schemeMark ++ ((lowerHost host).toList ++ (portText port).toList)) := by
    simp only [addressOf, String.toList_append, String.toList_ofList, List.append_assoc]
    rfl
  have place : ∀ c ∈ (lowerHost host).toList ++ (portText port).toList, Plain c := by
    intro c member
    rcases List.mem_append.mp member with named | numbered
    · exact plain_lowerHost plain c named
    · exact plain_portText port c numbered
  obtain ⟨scheme, rest⟩ := parts_of_letters letters named
    ((lowerHost host).toList ++ (portText port).toList)
  rw [written, authorityOf, scheme, rest, small]
  refine ⟨rfl, ?_⟩
  rw [List.filter_eq_self.mpr fun c member => (place c member).kept,
    List.takeWhile_eq_self_iff.mpr fun c member => (place c member).inner]

/-- The authority of an address leads to the host and the port it is made of, if the host is
unmarked. -/
theorem leadsTo_written {host : String} (plain : ∀ c ∈ host.toList, Plain c)
    (unmarked : Unmarked host) {port : Option Nat}
    (bound : ∀ number, port.filter (· ≠ 0) = some number → number ≤ 65535) :
    ∃ digits, LeadsTo (host.toList ++ (portText port).toList) host.toList digits ∧ IsPort digits ∧
      (portNumber digits).filter (· ≠ 0) = port.filter (· ≠ 0) := by
  have unsigned : '@' ∉ host.toList ++ (portText port).toList := by
    rw [mem_host_iff port (by decide) rfl]
    exact fun named => (plain _ named).unsigned rfl
  have unopened : '[' ∉ host.toList ++ (portText port).toList := by
    rw [mem_host_iff port (by decide) rfl]
    exact unmarked.opening
  rcases portText_cases port with ⟨none, empty⟩ | ⟨number, some, written⟩
  · rw [empty, List.append_nil] at unsigned ⊢
    refine ⟨[], ⟨_, .unknown unsigned, .bare unmarked.opening (.whole unmarked.colon)⟩, ?_, ?_⟩
    · exact ⟨nofun, by decide⟩
    · rw [none]
      rfl
  · rw [written] at unsigned unopened ⊢
    refine ⟨Nat.toDigits 10 number,
      ⟨_, .unknown unsigned, .bare unopened (.found unmarked.colon _)⟩,
      isPort_toDigits (bound number some), ?_⟩
    rw [portNumber_toDigits, some]
    exact if_pos (Option.filter_eq_some_iff.mp some).2

/-- The authority of an address is not broken if the host is unmarked. -/
theorem not_broken_written {host : String} (plain : ∀ c ∈ host.toList, Plain c)
    (unmarked : Unmarked host) (port : Option Nat) :
    ¬ Broken (host.toList ++ (portText port).toList) := by
  have unopened : '[' ∉ host.toList ++ (portText port).toList := by
    rw [mem_host_iff port (by decide) rfl]
    exact unmarked.opening
  have unclosed : ']' ∉ host.toList ++ (portText port).toList := by
    rw [mem_host_iff port (by decide) rfl]
    exact unmarked.closing
  rintro (one | ⟨-, -, closed, -, -⟩ | ⟨member, hidden⟩)
  · exact one (iff_of_false unopened unclosed)
  · exact unclosed closed
  · rcases List.mem_append.mp member with named | numbered
    · exact (plain _ named).visible hidden
    · exact (plain_portText port _ numbered).visible hidden

/-- There is no user without an at sign. -/
theorem userOf_of_not_mem {authority : List Char} (unsigned : '@' ∉ authority) :
    userOf authority = (none, none) := by
  rw [userOf, (Text.cutLast?_eq_none_iff (· == '@') authority).mpr (beq_mark_eq_false unsigned)]

/-- An address with an unmarked host is in normal form. -/
theorem normal_of_unmarked {url : String} {host port : List Char}
    (whole : ¬ Broken (authorityOf url.toList)) (leads : LeadsTo (authorityOf url.toList) host port)
    (named : host ≠ []) (isPort : IsPort port) (unmarked : Unmarked (lowerHost host)) :
    let again := (addressOf url.toList host (portNumber port)).url
    Address.ofUrl again = .ok ⟨none, none, again⟩ ∧
      Names again (String.ofList ((schemeOf url.toList).map Char.toLower)) (lowerHost host)
        ((portNumber port).filter (· ≠ 0)) := by
  intro again
  have plain := plain_lowerHost (leads.plain whole)
  obtain ⟨scheme, authority⟩ := parts_of_address url.toList host (leads.plain whole) (portNumber port)
  obtain ⟨digits, leadsAgain, isPortAgain, same⟩ :=
    leadsTo_written plain unmarked fun number => isPort.number_le
  have wholeAgain := not_broken_written plain unmarked (portNumber port)
  have unsigned : '@' ∉ authorityOf again.toList := by
    rw [authority, mem_host_iff _ (by decide) rfl]
    exact fun member => (plain _ member).unsigned rfl
  rw [← authority] at leadsAgain wholeAgain
  constructor
  · refine (ofUrl_eq_ok_iff ..).mpr
      ⟨wholeAgain, _, digits, leadsAgain, lowerHost_ne_nil named, isPortAgain, ?_⟩
    rw [addressOf, userOf_of_not_mem unsigned, scheme, lowerHost_lowerHost, ← portText_filter, same,
      portText_filter]
    rfl
  · exact ⟨congrArg String.ofList scheme.symm,
      _, digits, leadsAgain, (lowerHost_lowerHost host).symm, same.symm⟩

/-- The host of an address in normal form is unmarked. -/
theorem unmarked_of_normal {url : String} {host port : List Char}
    (whole : ¬ Broken (authorityOf url.toList)) (leads : LeadsTo (authorityOf url.toList) host port)
    {scheme : String} {number : Option Nat} {address : Address}
    (accepted : Address.ofUrl (addressOf url.toList host (portNumber port)).url = .ok address)
    (names : Names (addressOf url.toList host (portNumber port)).url scheme (lowerHost host) number) :
    Unmarked (lowerHost host) := by
  obtain ⟨-, authority⟩ := parts_of_address url.toList host (leads.plain whole) (portNumber port)
  obtain ⟨wholeAgain, -⟩ := (ofUrl_eq_ok_iff ..).mp accepted
  obtain ⟨name, digits, leadsAgain, same, -⟩ := names.place
  rw [authority] at wholeAgain leadsAgain
  -- Brackets of one kind would break the authority, and a host has no others.
  have paired : '[' ∈ (lowerHost host).toList ↔ ']' ∈ (lowerHost host).toList := by
    rw [← mem_host_iff (portNumber port) (by decide) rfl,
      ← mem_host_iff (portNumber port) (by decide) rfl]
    exact not_not.mp fun one => wholeAgain (.unpaired one)
  have notBoth : ¬ ('[' ∈ (lowerHost host).toList ∧ ']' ∈ (lowerHost host).toList) :=
    fun ⟨opened, closed⟩ => leads.not_paired
      ⟨mem_of_mem_lowerHost opened (by decide), mem_of_mem_lowerHost closed (by decide)⟩
  have unopened : '[' ∉ (lowerHost host).toList := fun opened => notBoth ⟨opened, paired.mp opened⟩
  refine ⟨?_, unopened, fun closed => notBoth ⟨paired.mpr closed, closed⟩⟩
  rw [same]
  refine fun colon => leadsAgain.colon_not_mem ?_ (mem_of_mem_lowerHost colon (by decide))
  rwa [mem_host_iff _ (by decide) rfl]

/-- The address in a URL is in normal form exactly if its host is unmarked. -/
theorem ofUrl_again {url : String} {address : Address}
    (accepted : Address.ofUrl url = .ok address) :
    ∃ scheme host port, Names url scheme host port ∧
      address.url = scheme ++ "://" ++ host ++ portText port ∧
      (Address.ofUrl address.url = .ok ⟨none, none, address.url⟩ ∧
          Names address.url scheme host port ↔
        Unmarked host) := by
  obtain ⟨whole, host, port, leads, named, isPort, rfl⟩ := (ofUrl_eq_ok_iff ..).mp accepted
  refine ⟨_, lowerHost host, (portNumber port).filter (· ≠ 0), ⟨rfl, host, port, leads, rfl, rfl⟩,
    ?_, ?_, ?_⟩
  · rw [portText_filter]
    rfl
  · rintro ⟨again, names⟩
    exact unmarked_of_normal whole leads again names
  · exact normal_of_unmarked whole leads named isPort

/-- The address in a URL with a user, large letters and a path. -/
theorem server_again :
    ∃ scheme host port, Names "HTTP://me:pw@Server:08080/manager" scheme host port ∧
      "http://server:8080" = scheme ++ "://" ++ host ++ portText port ∧
      (Address.ofUrl "http://server:8080" = .ok ⟨none, none, "http://server:8080"⟩ ∧
          Names "http://server:8080" scheme host port ↔
        Unmarked host) :=
  ofUrl_again (show Address.ofUrl "HTTP://me:pw@Server:08080/manager" =
    .ok ⟨some "me", some "pw", "http://server:8080"⟩ from rfl)

/-- The address in a URL with an address of eight groups has no brackets, and is refused itself. -/
theorem grouped_not_again :
    Address.ofUrl "http://[::1]:8080" = .ok ⟨none, none, "http://::1:8080"⟩ ∧
      Address.ofUrl "http://::1:8080" = .error (.refused (.malformedUrl "http://::1:8080")) :=
  ⟨rfl, rfl⟩

end Jobflow.Server
