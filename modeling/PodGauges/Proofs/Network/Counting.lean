import Mathlib
import PodGauges.Proofs.Gauges.Observed
import PodGauges.Proofs.Network.SocketTable

/-! Counting socket tables line by line. A line of data raises one counter by one, and any other
line raises none; so the counters together grow by the lines of data, and neither the order of lines
nor the tables they stand in matter, as long as the family stays. -/
namespace PodGauges.Network

open Number

/-- Whether a line has a fourth column, and that is an integer literal in base sixteen. -/
def isDataLine (line : List Char) : Bool :=
  (Text.words line)[3]?.any fun code => (hexInteger? code).isSome

/-- What can be counted apart: sockets in a state or in none, under a family. -/
def Socket.kinds : List Socket :=
  (TcpState.all.map some ++ [none]).flatMap fun state => IpVersion.all.map fun version =>
    ⟨state, version⟩

namespace SocketCounts

/-- The counter of a kind of socket. -/
def of (counts : SocketCounts) (kind : Socket) : Nat :=
  match kind.state with
  | some state => counts.known state kind.version
  | none => counts.unknown kind.version

/-- All counters together, those of no state among them. -/
def total (counts : SocketCounts) : Nat := (Socket.kinds.map counts.of).sum

/-- One pass over a line of a table of some family. -/
def addLine (counts : SocketCounts) (line : IpVersion × List Char) : SocketCounts :=
  match socket? line.1 line.2 with
  | some socket => counts.add [socket]
  | none => counts

/-- Tables of some families counted one after another. -/
def addTables (counts : SocketCounts) :
    List (IpVersion × List Char) → Except CountError SocketCounts
  | [] => .ok counts
  | (version, table) :: rest => do
    let counts ← counts.addNamedTable version.name table
    counts.addTables rest

end SocketCounts

/-- The lines behind the first of each table, with the family of the table. -/
def linesOf (tables : List (IpVersion × List Char)) : List (IpVersion × List Char) :=
  tables.flatMap fun table => (Text.lines table.2).tail.map fun line => (table.1, line)

/-! ## One line -/

theorem Socket.mem_kinds (kind : Socket) : kind ∈ Socket.kinds := by
  obtain ⟨state, version⟩ := kind
  refine List.mem_flatMap.mpr ⟨state, ?_, List.mem_map_of_mem (IpVersion.mem_all version)⟩
  cases state with
  | none => exact List.mem_append_right _ (List.mem_singleton_self _)
  | some state => exact List.mem_append_left _ (List.mem_map_of_mem (TcpState.mem_all state))

theorem Socket.nodup_kinds : Socket.kinds.Nodup := by decide

/-- Counted by all kinds that there are, the members of a list are as many as they are. -/
theorem sum_count_of_complete {α : Type} [DecidableEq α] {kinds : List α} (hNodup : kinds.Nodup)
    (hAll : ∀ kind, kind ∈ kinds) (members : List α) :
    (kinds.map fun kind => members.count kind).sum = members.length := by
  have hCount := Multiset.sum_count_eq_card (s := kinds.toFinset) (m := (members : Multiset α))
    fun kind _ => List.mem_toFinset.mpr (hAll kind)
  rw [← List.sum_toFinset _ hNodup]
  simpa only [Multiset.coe_count, Multiset.coe_card] using hCount

/-- A line gives a socket exactly if it is one of data. -/
theorem isSome_socket?_iff {version : IpVersion} {line : List Char} :
    (socket? version line).isSome ↔ isDataLine line := by
  unfold socket? row? isDataLine
  rw [Option.isSome_map]
  rcases Text.words line with _ | ⟨slot, _ | ⟨near, _ | ⟨far, _ | ⟨code, rest⟩⟩⟩⟩ <;> simp

/-- A line of the first table never gives a socket of the second family. -/
theorem version_of_socket?_four {line : List Char} {socket : Socket}
    (h : socket? .four line = some socket) : socket.version = .four := by
  obtain ⟨_, -, rfl⟩ := Option.map_eq_some_iff.mp h
  simp

namespace SocketCounts

/-- Counts are told by their counters. -/
theorem ext_of {counts other : SocketCounts} (h : ∀ kind, counts.of kind = other.of kind) :
    counts = other := by
  obtain ⟨known, unknown⟩ := counts
  obtain ⟨otherKnown, otherUnknown⟩ := other
  congr 1
  · funext state version
    exact h ⟨some state, version⟩
  · funext version
    exact h ⟨none, version⟩

theorem of_add (counts : SocketCounts) (more : List Socket) (kind : Socket) :
    (counts.add more).of kind = counts.of kind + more.count kind := by
  obtain ⟨_ | state, version⟩ := kind <;> rfl

theorem add_nil (counts : SocketCounts) : counts.add [] = counts := ext_of fun kind => by
  rw [of_add, List.count_nil, Nat.add_zero]

theorem add_append (counts : SocketCounts) (more others : List Socket) :
    counts.add (more ++ others) = (counts.add more).add others := ext_of fun kind => by
  rw [of_add, of_add, of_add, List.count_append, Nat.add_assoc]

/-- Each of some sockets is counted once. -/
theorem total_add (counts : SocketCounts) (more : List Socket) :
    (counts.add more).total = counts.total + more.length := by
  calc (counts.add more).total
      = (Socket.kinds.map fun kind => counts.of kind + more.count kind).sum := by
        rw [total, funext (of_add counts more)]
    _ = counts.total + more.length := by
        rw [List.sum_map_add, sum_count_of_complete Socket.nodup_kinds Socket.mem_kinds, total]

/-- The four ways through a line: one with too few columns or without a code counts nothing, and one
of data raises just the counter of its socket, be that in a state or in none. -/
theorem of_addLine (counts : SocketCounts) (line : IpVersion × List Char) (kind : Socket) :
    (counts.addLine line).of kind =
      counts.of kind + if socket? line.1 line.2 = some kind then 1 else 0 := by
  unfold addLine
  cases hSocket : socket? line.1 line.2 with
  | none => simp
  | some socket => simp [of_add, List.count_singleton]

/-- A line adds one to the total if it is a data line. -/
theorem total_addLine (counts : SocketCounts) (line : IpVersion × List Char) :
    (counts.addLine line).total = counts.total + if isDataLine line.2 then 1 else 0 := by
  have hData : isDataLine line.2 ↔ (socket? line.1 line.2).isSome := isSome_socket?_iff.symm
  simp only [hData, addLine]
  cases socket? line.1 line.2 with
  | none => simp
  | some socket => simp [total_add]

/-- Which of two lines is counted first does not matter. -/
theorem addLine_comm (counts : SocketCounts) (line other : IpVersion × List Char) :
    (counts.addLine line).addLine other = (counts.addLine other).addLine line :=
  ext_of fun kind => by
    simp only [of_addLine]
    exact Nat.add_right_comm ..

/-! ## Tables -/

/-- A table is counted as its lines are, one after another. -/
theorem addTable_eq_foldl (counts : SocketCounts) (version : IpVersion) (table : List Char) :
    counts.addTable version table =
      ((Text.lines table).tail.map fun line => (version, line)).foldl addLine counts := by
  rw [addTable, sockets]
  induction (Text.lines table).tail generalizing counts with
  | nil => exact counts.add_nil
  | cons line lines ih =>
      rw [List.map_cons, List.foldl_cons, ← ih, addLine, List.filterMap_cons]
      cases socket? version line with
      | none => rfl
      | some socket => exact counts.add_append [socket] _

theorem addNamedTable_name (counts : SocketCounts) (version : IpVersion) (table : List Char) :
    counts.addNamedTable version.name table = .ok (counts.addTable version table) := by
  rw [addNamedTable, IpVersion.ofName?_name]

/-- Counting tables never fails, and is counting the lines in them. -/
theorem addTables_eq_foldl (counts : SocketCounts) (tables : List (IpVersion × List Char)) :
    counts.addTables tables = .ok ((linesOf tables).foldl addLine counts) := by
  induction tables generalizing counts with
  | nil => rfl
  | cons table tables ih =>
      rw [addTables, addNamedTable_name, linesOf, List.flatMap_cons, List.foldl_append,
        ← addTable_eq_foldl]
      exact ih _

section Lines

variable (counts : SocketCounts) (lines : List (IpVersion × List Char))

/-- No count goes down. -/
theorem le_of_foldl (kind : Socket) : counts.of kind ≤ (lines.foldl addLine counts).of kind := by
  induction lines generalizing counts with
  | nil => exact Nat.le_refl _
  | cons line lines ih =>
      refine Nat.le_trans ?_ (ih (counts.addLine line))
      rw [of_addLine]
      exact Nat.le_add_right ..

theorem total_foldl : (lines.foldl addLine counts).total =
    counts.total + lines.countP fun line => isDataLine line.2 := by
  induction lines generalizing counts with
  | nil => rw [List.foldl_nil, List.countP_nil, Nat.add_zero]
  | cons line lines ih =>
      rw [List.foldl_cons, ih, total_addLine, List.countP_cons, Nat.add_assoc,
        Nat.add_comm (ite ..)]

/-- Lines of tables of the first family leave the counters of the second alone. -/
theorem of_foldl_four (h : ∀ line ∈ lines, line.1 = .four) (state : Option TcpState) :
    (lines.foldl addLine counts).of ⟨state, .six⟩ = counts.of ⟨state, .six⟩ := by
  induction lines generalizing counts with
  | nil => rfl
  | cons line lines ih =>
      have hNot : socket? line.1 line.2 ≠ some ⟨state, .six⟩ := by
        rw [h line (List.mem_cons_self ..)]
        intro hSocket
        cases version_of_socket?_four hSocket
      rw [List.foldl_cons, ih _ fun other hOther => h other (List.mem_cons_of_mem _ hOther),
        of_addLine, if_neg hNot, Nat.add_zero]

end Lines

/-- Whatever tables are counted, there is a count: under the same names as before, with no counter
lowered, and with one more for each line of data. Tables of the first family do not touch the
counters of the second. The same lines in another order, spread over other tables or with the
families in another order, give the same counts. -/
theorem addTables_conserve (counts : SocketCounts) (tables : List (IpVersion × List Char)) :
    ∃ after, counts.addTables tables = .ok after ∧
      after.table.map (·.1) = counts.table.map (·.1) ∧
      (∀ state version, Keyed.get? (state.name, version.name) after.table =
        some (after.of ⟨some state, version⟩ : Int)) ∧
      (∀ kind, counts.of kind ≤ after.of kind) ∧
      after.total = counts.total + (linesOf tables).countP (fun line => isDataLine line.2) ∧
      ((∀ table ∈ tables, table.1 = .four) →
        ∀ state, after.of ⟨state, .six⟩ = counts.of ⟨state, .six⟩) ∧
      ∀ others, (linesOf others).Perm (linesOf tables) → counts.addTables others = .ok after := by
  refine ⟨_, counts.addTables_eq_foldl tables, rfl, (table_spec _).2.2, counts.le_of_foldl _,
    counts.total_foldl _, fun hFour => counts.of_foldl_four _ fun line hLine => ?_,
    fun others hLines => ?_⟩
  · obtain ⟨table, hTable, hLine⟩ := List.mem_flatMap.mp hLine
    obtain ⟨_, -, rfl⟩ := List.mem_map.mp hLine
    exact hFour table hTable
  · rw [addTables_eq_foldl, hLines.foldl_eq' fun line _ other _ counts =>
      addLine_comm counts line other]

/-! A table of the first family with a listener, a row without a code and one whose code is no
state's, and a table of the second with a mapped connection and a short row. -/

def fourRows : List Char := "sl local st\n0: a:1 b:2 0A\n1: a:1 b:2 zz\n2: a:1 b:2 0xff 7".toList

def sixRows : List Char := "sl local st\n0: 0000000000000000ffff00007F:1 b:2 1\n1: c:3".toList

/-- The same lines with the families in the other order, and the first table in two parts. -/
def rearranged : List (IpVersion × List Char) :=
  [(.six, "\n1: c:3\n0: 0000000000000000ffff00007F:1 b:2 1".toList),
    (.four, "sl\n2: a:1 b:2 0xff 7".toList), (.four, "sl\n1: a:1 b:2 zz\n0: a:1 b:2 0A".toList)]

/-- Both ways the three rows of data are counted, and the first table alone leaves the second family
without a connection. -/
theorem addTables_conserve_rearranged :
    (linesOf rearranged).Perm (linesOf [(.four, fourRows), (.six, sixRows)]) ∧
    (∃ after, zero.addTables [(.four, fourRows), (.six, sixRows)] = .ok after ∧
      zero.addTables rearranged = .ok after ∧ after.total = 3) ∧
    ∃ after, zero.addTables [(.four, fourRows)] = .ok after ∧ after.total = 2 ∧
      after.of ⟨some .established, .six⟩ = 0 := by
  have hLines : (linesOf rearranged).Perm (linesOf [(.four, fourRows), (.six, sixRows)]) := by
    decide +kernel
  obtain ⟨both, hBoth, -, -, -, hTotal, -, hOrder⟩ :=
    zero.addTables_conserve [(.four, fourRows), (.six, sixRows)]
  obtain ⟨four, hFour, -, -, -, hFourTotal, hSix, -⟩ :=
    zero.addTables_conserve [(.four, fourRows)]
  refine ⟨hLines, ⟨both, hBoth, hOrder _ hLines, ?_⟩, four, hFour, ?_, ?_⟩
  · rw [hTotal]
    decide +kernel
  · rw [hFourTotal]
    decide +kernel
  · rw [hSix (by decide)]
    rfl

end SocketCounts

end PodGauges.Network
