import RouteFeed.Proofs.Equality
import RouteFeed.Proofs.Feed.Line
import RouteFeed.Proofs.Json
import RouteFeed.Proofs.Number
import RouteFeed.Proofs.Retrieval.Entries

/-! Messages as the feed documents them. A bulletin has the documented fields, any of which may be
left out. A message that holds a bulletin becomes a valid record with the elements of the bulletin:
no network is lost, repeated or moved. -/
namespace RouteFeed.Live

open Number Text Value

/-- The time of a bulletin: a whole number, or a finite one of double precision. -/
inductive Stamp where
  | whole (n : Int)
  | real (negative : Bool) (mantissa : Nat) (exponent : Int)

namespace Stamp

def written : Stamp → Value
  | whole n => .int n
  | real negative mantissa exponent => .real (.finite negative mantissa exponent)

def amount : Stamp → ℚ
  | whole n => n
  | real negative mantissa exponent => Binary64.amount negative mantissa exponent

theorem toInteger_written (t : Stamp) : t.written.toInteger = .ok (wholePart t.amount) := by
  cases t with
  | whole n => simp [written, amount, Value.toInteger]
  | real negative m e =>
    simp only [written, amount, Value.toInteger, Binary64.truncate_finite]

end Stamp

/-- The number of a peer, written as a number or as its decimal text. -/
structure PeerNumber where
  number : Int
  asText : Bool

namespace PeerNumber

def written (n : PeerNumber) : Value :=
  if n.asText then .text (decimal n.number) else .int n.number

/-- A text with no more digits than are read. -/
def IsShort (n : PeerNumber) : Prop :=
  n.asText = true → (decimalDigits n.number.natAbs).length ≤ digitLimit

theorem toInteger_written {n : PeerNumber} (short : n.IsShort) :
    n.written.toInteger = .ok n.number := by
  obtain ⟨number, asText⟩ := n
  cases asText with
  | false => rfl
  | true =>
    have bound : ¬ digitLimit < (decimalDigits number.natAbs).length :=
      Nat.not_lt.mpr (short rfl)
    simp only [written, if_true, Value.toInteger, Points.map_toChar_ofString,
      Number.readInteger_decimal, if_neg bound]
    rfl

theorem toInteger_written_of_long {n : PeerNumber} (long : ¬ n.IsShort) :
    n.written.toInteger =
      .error (.tooManyDigits (decimalDigits n.number.natAbs).length) := by
  obtain ⟨number, asText⟩ := n
  simp only [IsShort, Classical.not_imp, Nat.not_le] at long
  obtain ⟨rfl, bound⟩ := long
  simp only [written, if_true, Value.toInteger, Points.map_toChar_ofString,
    Number.readInteger_decimal, if_pos bound]
  rfl

end PeerNumber

inductive Hop where
  | one (asn : Int)
  | set (asns : List Int)

namespace Hop

def written : Hop → Value
  | one asn => .int asn
  | set asns => .list (asns.map .int)

def text : Hop → String
  | one asn => decimal asn
  | set asns => "\x7b" ++ String.intercalate "," (asns.map decimal) ++ "\x7d"

theorem hopText_written (hop : Hop) : hopText hop.written = hop.text := by
  cases hop with
  | one asn => rfl
  | set asns =>
    simp only [written, text, hopText, List.map_map, Points.ofString_append,
      Points.ofString_intercalate]
    rfl

end Hop

structure Announcement where
  nextHop : Option Points
  networks : Option (List Points)

/-- A value is an announcement, beside whatever else it holds. -/
def Announcement.Describes (a : Announcement) (v : Value) : Prop :=
  ∃ fields, v = .object fields ∧ Named.get? fields ↑"next_hop" = a.nextHop.map .text ∧
    Named.get? fields ↑"prefixes" = a.networks.map Value.texts

/-- What a message tells. A community is a pair. -/
structure Bulletin where
  stamp : Option Stamp := none
  peer : Option Points := none
  peerNumber : Option PeerNumber := none
  host : Option Points := none
  type : Option Value := none
  path : Option (List Hop) := none
  communities : Option (List (Value × Value)) := none
  origin : Option Points := none
  announcements : Option (List Announcement) := none
  withdrawals : Option (List Points) := none
  state : Option Points := none

namespace Bulletin

/-- The documented fields of a message are those of a bulletin. -/
structure Describes (b : Bulletin) (fields : Fields) : Prop where
  stamp : Named.get? fields ↑"timestamp" = b.stamp.map Stamp.written
  peer : Named.get? fields ↑"peer" = b.peer.map .text
  peerNumber : Named.get? fields ↑"peer_asn" = b.peerNumber.map PeerNumber.written
  host : Named.get? fields ↑"host" = b.host.map .text
  type : Named.get? fields ↑"type" = b.type
  path : Named.get? fields ↑"path" = b.path.map fun hops => .list (hops.map Hop.written)
  communities : Named.get? fields ↑"community" =
    b.communities.map fun pairs => .list (pairs.map fun pair => .list [pair.1, pair.2])
  origin : Named.get? fields ↑"origin" = b.origin.map .text
  announcements : ∃ items : Option (List Value),
    Named.get? fields ↑"announcements" = items.map .list ∧
      Option.Rel (List.Forall₂ Announcement.Describes) b.announcements items
  withdrawals : Named.get? fields ↑"withdrawals" = b.withdrawals.map Value.texts
  state : Named.get? fields ↑"state" = b.state.map .text

def time (b : Bulletin) : Int := wholePart ((b.stamp.map Stamp.amount).getD 0)

def element (b : Bulletin) (type : ElementType) : Element where
  type
  time := .int b.time
  peerAddress := .text (b.peer.getD [])
  peerAsn := .int ((b.peerNumber.map PeerNumber.number).getD 0)

def announcement (b : Bulletin) (nextHop : Option Points) (network : Points) : Element :=
  { b.element .announcement with
    network := .text network
    nextHop := .ofText? nextHop
    asPath := .text (String.intercalate " " ((b.path.getD []).map Hop.text))
    communities := .texts ((b.communities.getD []).map fun (asn, value) =>
      asn.plain ++ Points.ofString ":" ++ value.plain)
    origin := .ofText? b.origin }

def withdrawal (b : Bulletin) (network : Points) : Element :=
  { b.element .withdrawal with network := .text network }

def elements (b : Bulletin) : List Element :=
  match b.type.bind Value.string? with
  | some "UPDATE" =>
    ((b.announcements.getD []).flatMap fun a =>
      (a.networks.getD []).map (b.announcement a.nextHop)) ++
    (b.withdrawals.getD []).map b.withdrawal
  | some "RIS_PEER_STATE" => [{ b.element .peerState with newState := .ofText? b.state }]
  | _ => []

end Bulletin

namespace Bulletin

variable {b : Bulletin} {fields : Fields}

def speaker (b : Bulletin) : Live.Peer where
  time := b.time
  address := .text (b.peer.getD [])
  asn := (b.peerNumber.map PeerNumber.number).getD 0

def route (b : Bulletin) : Route where
  path := .text (String.intercalate " " ((b.path.getD []).map Hop.text))
  communities := .texts ((b.communities.getD []).map fun (asn, value) =>
    asn.plain ++ Points.ofString ":" ++ value.plain)
  origin := .ofText? b.origin

end Bulletin

@[simp] theorem get_object (fields : Fields) (key : String) (substitute : Value) :
    Value.get (.object fields) key substitute = .ok ((Named.get? fields ↑key).getD substitute) := rfl

theorem parts_texts (networks : Option (List Points)) :
    ((networks.map Value.texts).getD (.list [])).parts = .ok ((networks.getD []).map .text) := by
  cases networks with
  | none => rfl
  | some networks => rfl

theorem parts_list (items : Option (List Value)) :
    ((items.map Value.list).getD (.list [])).parts = .ok (items.getD []) := by
  cases items with
  | none => rfl
  | some items => rfl

theorem pathText_written (hops : List Hop) :
    pathText (hops.map Hop.written) = String.intercalate " " (hops.map Hop.text) := by
  simp only [pathText, List.map_map, Function.comp_def, Hop.hopText_written,
    Points.ofString_intercalate]

theorem communities_read (pairs : List (Value × Value)) :
    (pairs.map fun pair => Value.list [pair.1, pair.2]).mapM communityText =
      .ok (pairs.map fun (asn, value) => .text (asn.plain ++ Points.ofString ":" ++ value.plain)) := by
  induction pairs with
  | nil => rfl
  | cons pair pairs ih =>
    rw [List.map_cons, List.mapM_cons, ih]
    rfl

theorem announced_of_describes {b : Bulletin} {a : Announcement} {v : Value} (d : a.Describes v) :
    announced b.speaker b.route v =
      .ok ((a.networks.getD []).map (b.announcement a.nextHop)) := by
  obtain ⟨fields, rfl, nextHop, networks⟩ := d
  have hop : (a.nextHop.map Value.text).getD .null = .ofText? a.nextHop := by
    cases a.nextHop <;> rfl
  simp only [announced, get_object, networks, nextHop, hop, bind, Except.bind, parts_texts]
  simp only [pure, Except.pure, List.map_map]
  rfl

/-- The networks of all announcements: by induction, each brings its own behind those before. -/
theorem allAnnounced_of_describes {b : Bulletin} {as : List Announcement} {vs : List Value}
    (d : List.Forall₂ Announcement.Describes as vs) :
    allAnnounced b.speaker b.route vs =
      .ok (as.flatMap fun a => (a.networks.getD []).map (b.announcement a.nextHop)) := by
  induction d with
  | nil => rfl
  | cons here others ih =>
    rw [allAnnounced, announced_of_describes here, ih]
    rfl

theorem updateElements_of_describes {b : Bulletin} {fields : Fields} (d : b.Describes fields) :
    updateElements b.speaker (.object fields) = .ok (
      ((b.announcements.getD []).flatMap fun a =>
        (a.networks.getD []).map (b.announcement a.nextHop)) ++
      (b.withdrawals.getD []).map b.withdrawal) := by
  obtain ⟨items, written, announced⟩ := d.announcements
  have hops : ((b.path.map fun hops => Value.list (hops.map Hop.written)).getD (.list [])).parts =
      .ok ((b.path.getD []).map Hop.written) := by cases b.path <;> rfl
  have pairs : ((b.communities.map fun pairs =>
      Value.list (pairs.map fun pair => .list [pair.1, pair.2])).getD (.list [])).parts =
      .ok ((b.communities.getD []).map fun pair => .list [pair.1, pair.2]) := by
    cases b.communities <;> rfl
  have origin : (b.origin.map Value.text).getD .null = .ofText? b.origin := by
    cases b.origin <;> rfl
  have told : allAnnounced b.speaker b.route (items.getD []) =
      .ok ((b.announcements.getD []).flatMap fun a =>
        (a.networks.getD []).map (b.announcement a.nextHop)) := by
    generalize b.announcements = announcements at announced
    cases announced with
    | none => rfl
    | some each => exact allAnnounced_of_describes each
  have texts : (b.communities.getD []).map
      (fun pair => Value.text (pair.1.plain ++ Points.ofString ":" ++ pair.2.plain)) =
        ((b.communities.getD []).map fun pair => pair.1.plain ++ Points.ofString ":" ++ pair.2.plain).map .text := by
    rw [List.map_map]
    rfl
  have same : (⟨.text (String.intercalate " " ((b.path.getD []).map Hop.text)),
      .list ((b.communities.getD []).map fun pair =>
        Value.text (pair.1.plain ++ Points.ofString ":" ++ pair.2.plain)), .ofText? b.origin⟩ : Route) = b.route := by
    rw [texts]
    rfl
  unfold updateElements
  simp only [get_object, d.path, d.communities, d.origin, d.withdrawals, written, origin, bind,
    Except.bind, hops, pairs, pathText_written, communities_read, same, parts_list, told,
    parts_texts, withdrawn, List.map_map, pure, Except.pure]
  rfl

theorem elements_of_describes {b : Bulletin} {fields : Fields} (d : b.Describes fields) :
    Live.elements b.speaker (.object fields) = .ok b.elements := by
  have state : (b.state.map Value.text).getD .null = .ofText? b.state := by
    cases b.state <;> rfl
  have type : (b.type.getD .null).string? = b.type.bind Value.string? := by cases b.type <;> rfl
  unfold Live.elements Bulletin.elements
  simp only [get_object, d.type, d.state, state, bind, Except.bind, type]
  by_cases update : b.type.bind Value.string? = some "UPDATE"
  · simp only [update]
    exact updateElements_of_describes d
  · by_cases peerState : b.type.bind Value.string? = some "RIS_PEER_STATE"
    · simp only [peerState]
      rfl
    · simp only
      rfl

theorem time_of_describes {b : Bulletin} {fields : Fields} (d : b.Describes fields) :
    ((Named.get? fields ↑"timestamp").getD (.int 0)).toInteger = .ok b.time := by
  rw [d.stamp, Bulletin.time]
  cases b.stamp with
  | none => simp [Value.toInteger, wholePart]
  | some t => exact t.toInteger_written

/-- A message that holds a bulletin can be read if the text of its peer's number is short enough. -/
theorem content_of_describes {b : Bulletin} {fields : Fields} (d : b.Describes fields)
    (short : ∀ n ∈ b.peerNumber, n.IsShort) :
    content (.object fields) = .ok (b.speaker, b.elements) := by
  have number : ((b.peerNumber.map PeerNumber.written).getD (.int 0)).toInteger =
      .ok ((b.peerNumber.map PeerNumber.number).getD 0) := by
    cases h : b.peerNumber with
    | none => rfl
    | some n => exact PeerNumber.toInteger_written (short n h)
  have address : (b.peer.map Value.text).getD (.text []) = .text (b.peer.getD []) := by
    cases b.peer <;> rfl
  have es := elements_of_describes d
  unfold Bulletin.speaker at es
  unfold content
  simp only [get_object, time_of_describes d, d.peer, d.peerNumber, number, address, bind,
    Except.bind, es]
  rfl

theorem content_of_long {b : Bulletin} {fields : Fields} (d : b.Describes fields)
    {n : PeerNumber} (found : b.peerNumber = some n) (long : ¬ n.IsShort) :
    content (.object fields) = .error (.tooManyDigits (decimalDigits n.number.natAbs).length) := by
  have number : ((b.peerNumber.map PeerNumber.written).getD (.int 0)).toInteger =
      .error (.tooManyDigits (decimalDigits n.number.natAbs).length) := by
    rw [found]
    exact PeerNumber.toInteger_written_of_long long
  unfold content
  simp only [get_object, time_of_describes d, d.peerNumber, number, bind, Except.bind]

theorem collectorOf_of_describes {b : Bulletin} {fields : Fields} (d : b.Describes fields) :
    collectorOf (.object fields) = .ok (collectorName (b.host.getD [])) := by
  have host : (b.host.map Value.text).getD (.text []) = .text (b.host.getD []) := by
    cases b.host <;> rfl
  simp only [collectorOf, get_object, d.host, host, bind, Except.bind]
  rfl

theorem networks_of_update {b : Bulletin} (update : b.type = some (.text "UPDATE")) :
    b.elements.map (fun e => (e.type, e.network)) =
      (((b.announcements.getD []).flatMap fun a => a.networks.getD []).map fun network =>
        (.announcement, .text network)) ++
      (b.withdrawals.getD []).map fun network => (.withdrawal, .text network) := by
  have split : b.elements = ((b.announcements.getD []).flatMap fun a =>
      (a.networks.getD []).map (b.announcement a.nextHop)) ++
      (b.withdrawals.getD []).map b.withdrawal := by
    rw [Bulletin.elements, update]
    rfl
  rw [split, List.map_append, List.map_flatMap, List.map_flatMap, List.map_map]
  simp only [List.map_map]
  rfl

inductive Bulletin.Tells (b : Bulletin) : Element → Prop
  | announces (nextHop : Option Points) (network : Points) : b.Tells (b.announcement nextHop network)
  | withdraws (network : Points) : b.Tells (b.withdrawal network)
  | changes : b.Tells { b.element .peerState with newState := .ofText? b.state }

theorem tells_of_mem {b : Bulletin} {e : Element} (h : e ∈ b.elements) : b.Tells e := by
  unfold Bulletin.elements at h
  split at h
  · rcases List.mem_append.mp h with announced | withdrawn
    · obtain ⟨a, _, member⟩ := List.mem_flatMap.mp announced
      obtain ⟨network, _, rfl⟩ := List.mem_map.mp member
      exact .announces a.nextHop network
    · obtain ⟨network, _, rfl⟩ := List.mem_map.mp withdrawn
      exact .withdraws network
  · cases List.mem_singleton.mp h
    exact .changes
  · cases h

theorem mem_elements {b : Bulletin} {e : Element} (h : e ∈ b.elements) :
    e.time = .int b.time ∧ e.peerAddress = .text (b.peer.getD []) ∧
      e.peerAsn = .int ((b.peerNumber.map PeerNumber.number).getD 0) := by
  cases tells_of_mem h <;> exact ⟨rfl, rfl, rfl⟩

/-- A message that holds a bulletin becomes a valid record with the bulletin's time and elements, if
the text of its peer's number has no more digits than are read. -/
theorem reading_of_bulletin {line : List Char} {fields inner : Fields} {b : Bulletin}
    (m : message? "ris_message" line = some fields) (data : dataOf fields = .object inner)
    (d : b.Describes inner) (short : ∀ n ∈ b.peerNumber, n.IsShort) :
    ∃ r, reading line = .record r ∧ r.status = .valid ∧
      r.time = wholePart ((b.stamp.map Stamp.amount).getD 0) ∧ r.dumpTime = r.time ∧
      r.collector = collectorName (b.host.getD []) ∧ r.elements.1 = .ok b.elements ∧
      (∀ e ∈ b.elements, e.time = .int r.time ∧ e.peerAddress = .text (b.peer.getD []) ∧
        e.peerAsn = .int ((b.peerNumber.map PeerNumber.number).getD 0)) ∧
      (b.type = some (.text "UPDATE") →
        b.elements.map (fun e => (e.type, e.network)) =
          (((b.announcements.getD []).flatMap fun a => a.networks.getD []).map fun network =>
            (.announcement, .text network)) ++
          (b.withdrawals.getD []).map fun network => (.withdrawal, .text network)) := by
  have converted : convert (dataOf fields) =
      .ok (makeRecord b.time (collectorName (b.host.getD [])) .valid (.stored b.elements)) := by
    simp only [data, convert, content_of_describes d short, collectorOf_of_describes d]
    rfl
  refine ⟨makeRecord b.time (collectorName (b.host.getD [])) .valid (.stored b.elements),
    ?_, rfl, rfl, rfl, rfl, ?_, fun e he => mem_elements he, networks_of_update⟩
  · rw [reading_message m, converted]
  · exact congrArg Except.ok (upToGap_some b.elements)

/-- An update with two announcements, of which the second tells nothing. -/
def updateLine : List Char := [
  "\x7b\"type\":\"ris_message\",\"data\":", "\x7b\"timestamp\":1700000000.5,",
  "\"peer_asn\":\"65001\",", "\"type\":\"UPDATE\",", "\"path\":[65001,[65002,65003]],",
  "\"community\":[[65001,100]],", "\"announcements\":[\x7b\"next_hop\":\"192.0.2.1\",",
  "\"prefixes\":[\"203.0.113.0/24\"]\x7d,\x7b\x7d],",
  "\"withdrawals\":[\"198.51.100.0/24\"]\x7d\x7d"].flatMap String.toList

def updateData : Fields := [
  ("timestamp", .real (.finite false 7130316802097152 (-22))), ("peer_asn", .text "65001"),
  ("type", .text "UPDATE"), ("path", .list [.int 65001, .list [.int 65002, .int 65003]]),
  ("community", .list [.list [.int 65001, .int 100]]),
  ("announcements", .list [
    .object [("next_hop", .text "192.0.2.1"), ("prefixes", .texts ["203.0.113.0/24"])],
    .object []]),
  ("withdrawals", .texts ["198.51.100.0/24"])]

def updateBulletin : Bulletin where
  stamp := some (.real false 7130316802097152 (-22))
  peerNumber := some ⟨65001, true⟩
  type := some (.text "UPDATE")
  path := some [.one 65001, .set [65002, 65003]]
  communities := some [(.int 65001, .int 100)]
  announcements := some [⟨some "192.0.2.1", some ["203.0.113.0/24"]⟩, ⟨none, none⟩]
  withdrawals := some ["198.51.100.0/24"]

theorem updateBulletin_describes : updateBulletin.Describes updateData where
  stamp := rfl
  peer := rfl
  peerNumber := rfl
  host := rfl
  type := rfl
  path := rfl
  communities := rfl
  origin := rfl
  announcements := ⟨_, rfl, .some (.cons ⟨_, rfl, rfl, rfl⟩ (.cons ⟨_, rfl, rfl, rfl⟩ .nil))⟩
  withdrawals := rfl
  state := rfl

theorem reading_of_bulletin_update :
    ∃ r, reading updateLine = .record r ∧ r.status = .valid ∧ r.time = 1700000000 ∧
      r.elements.1 = .ok updateBulletin.elements := by
  have message : message? "ris_message" updateLine =
      some [(↑"type", .text "ris_message"), (↑"data", .object updateData)] := by decide +kernel
  have short : ∀ n ∈ updateBulletin.peerNumber, n.IsShort := by
    intro n found
    cases found
    exact fun _ => by decide
  obtain ⟨r, read, valid, time, _, _, elements, _⟩ :=
    reading_of_bulletin message rfl updateBulletin_describes short
  have whole : wholePart ((updateBulletin.stamp.map Stamp.amount).getD 0) = 1700000000 := by
    decide +kernel
  exact ⟨r, read, valid, time.trans whole, elements⟩

def typeField : List Char :=
  '"' :: (['t', 'y', 'p', 'e'] ++ '"' :: ':' ::
    '"' :: (['r', 'i', 's', '_', 'm', 'e', 's', 's', 'a', 'g', 'e'] ++ ['"', '\x7d']))

/-- A message with nothing but a text for the number of its peer. -/
def numberLine (digits : List Char) : List Char :=
  '\x7b' :: '"' :: (['d', 'a', 't', 'a'] ++ '"' :: ':' ::
    '\x7b' :: '"' :: (['p', 'e', 'e', 'r', '_', 'a', 's', 'n'] ++ '"' :: ':' ::
      '"' :: (digits ++ '"' :: '\x7d' :: ',' :: typeField)))

def numberFields (digits : List Char) : Fields := [
  ("data", .object [("peer_asn", .text (String.ofList digits))]), ("type", .text "ris_message")]

theorem readFields_typeField (fuel depth : Nat) (before : Fields) :
    readFields (fuel + 2) depth before typeField =
      .ok (Named.put before "type" (.text "ris_message"), []) := by
  have value : readValue (fuel + 1) depth (skipBlanks ('"' ::
      (['r', 'i', 's', '_', 'm', 'e', 's', 's', 'a', 'g', 'e'] ++ ['"', '\x7d']))) =
      .ok (.text "ris_message", ['\x7d']) := readValue_verbatim (by decide) _
  exact readFields_last (readString_verbatim (by decide) _) value rfl

theorem message_numberLine {digits : List Char} (h : digits.all isVerbatim = true) :
    message? "ris_message" (numberLine digits) = some (numberFields digits) := by
  have number : readValue (digits.length + 42) 973
      (skipBlanks ('"' :: (digits ++ '"' :: '\x7d' :: ',' :: typeField))) =
      .ok (.text (String.ofList digits), '\x7d' :: ',' :: typeField) := by
    rw [Points.ofString_ofList]
    exact readValue_verbatim h _
  have key : readString (['p', 'e', 'e', 'r', '_', 'a', 's', 'n'] ++ '"' :: ':' ::
      '"' :: (digits ++ '"' :: '\x7d' :: ',' :: typeField)) =
      .ok ("peer_asn", ':' :: '"' :: (digits ++ '"' :: '\x7d' :: ',' :: typeField)) :=
    readString_verbatim (by decide) _
  have data := readValue_object (readFields_last key number rfl)
  have comma : skipBlanks (',' :: typeField) = ',' :: typeField := rfl
  have whole : readValue (digits.length + 46) 975 (numberLine digits) =
      .ok (.object (numberFields digits), []) :=
    readValue_object ((readFields_next (readString_verbatim (by decide) _) data comma).trans
      (readFields_typeField (digits.length + 42) 974 _))
  have size : (numberLine digits).length = digits.length + 45 := by
    simp [numberLine, typeField]
  have start : skipBlanks (numberLine digits) = numberLine digits := rfl
  have parsed : Value.parse (numberLine digits) = .ok (.object (numberFields digits)) := by
    simp only [parse, parseWithin, start, size, depthLimit, whole]
    rfl
  exact message?_eq_some_iff.mpr ⟨rfl, parsed, rfl⟩

/-- A message in the documented form becomes no record if its peer's number is too long a text. -/
theorem numberLine_breaks {n : Nat} (long : digitLimit < (decimalDigits n).length) :
    ∃ fields inner, message? "ris_message" (numberLine (decimalDigits n)) = some fields ∧
      dataOf fields = .object inner ∧
      Bulletin.Describes { peerNumber := some ⟨n, true⟩ } inner ∧
      ∀ r, reading (numberLine (decimalDigits n)) ≠ .record r := by
  have verbatim : (decimalDigits n).all isVerbatim = true := by
    refine List.all_eq_true.mpr fun c hc => ?_
    have digit := isDigit_of_mem_decimalDigits hc
    have bounds : 48 ≤ c.toNat ∧ c.toNat ≤ 57 := by
      simpa [Char.isDigit, UInt32.le_iff_toNat_le] using digit
    have noQuote : c ≠ '"' := fun h => absurd digit (by rw [h]; decide)
    have noEscape : c ≠ '\\' := fun h => absurd digit (by rw [h]; decide)
    have printed : 0x20 ≤ c.toNat := by omega
    simp [isVerbatim, printed, noQuote, noEscape]
  have d : Bulletin.Describes { peerNumber := some ⟨n, true⟩ }
      [("peer_asn", .text (String.ofList (decimalDigits n)))] := {
    stamp := rfl, peer := rfl, peerNumber := rfl, host := rfl, type := rfl, path := rfl
    communities := rfl, origin := rfl, announcements := ⟨none, rfl, .none⟩, withdrawals := rfl
    state := rfl }
  have m := message_numberLine verbatim
  refine ⟨_, _, m, rfl, d, fun r read => ?_⟩
  have failed := content_of_long d rfl fun short => absurd (short rfl) (Nat.not_le.mpr long)
  obtain ⟨found, m', converted⟩ := wellFormed?_eq_some_iff.mp (wellFormed_of_reading read)
  cases m.symm.trans m'
  have data : dataOf (numberFields (decimalDigits n)) =
      .object [("peer_asn", .text (String.ofList (decimalDigits n)))] := rfl
  simp only [data, convert, failed] at converted
  cases converted

/-- The least number whose text is too long. -/
def longNumber : Nat := 10 ^ digitLimit

theorem long_number_breaks :
    ∃ fields inner, message? "ris_message" (numberLine (decimalDigits longNumber)) = some fields ∧
      dataOf fields = .object inner ∧
      Bulletin.Describes { peerNumber := some ⟨longNumber, true⟩ } inner ∧
      ∀ r, reading (numberLine (decimalDigits longNumber)) ≠ .record r := by
  refine numberLine_breaks (Nat.lt_of_not_le fun bound => ?_)
  have below : longNumber < 10 ^ digitLimit :=
    (Nat.length_toDigits_le_iff (by decide) (by decide)).mp bound
  exact Nat.lt_irrefl _ below

end RouteFeed.Live
