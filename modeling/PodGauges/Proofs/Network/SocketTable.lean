import Mathlib
import PodGauges.Proofs.Gauges.Observed
import PodGauges.Proofs.Keyed
import PodGauges.Proofs.Number.Hexadecimal
import PodGauges.Proofs.Text.Utf8

/-! The socket tables in the form in which the kernel writes them, and what is read of them. A table
is written from a list of sockets with binary addresses; reading it counts just these sockets, and
the family under which one counts is a matter of its addresses as numbers. -/
namespace PodGauges.Network

open File Number Text

/-! ## What the kernel writes -/

/-- One end of a connection: an address of some words of 32 bits, and a port. -/
structure Endpoint (words : Nat) where
  address : BitVec (32 * words)
  port : BitVec 16

/-- A socket as the kernel knows it: the end on this host, the other end, and the code of its
state. -/
structure KernelSocket (words : Nat) where
  near : Endpoint words
  far : Endpoint words
  code : BitVec 8

/-- The number that the bytes of a word make in the opposite order. -/
def byteSwapped (word : Nat) : Nat :=
  word % 2 ^ 8 * 2 ^ 24 + word / 2 ^ 8 % 2 ^ 8 * 2 ^ 16 + word / 2 ^ 16 % 2 ^ 8 * 2 ^ 8 +
    word / 2 ^ 24 % 2 ^ 8

/-- The digits of an address: its words one after another, each at eight digits and with its bytes
in the opposite order. -/
def addressValues : Nat → Nat → List Nat
  | 0, _ => []
  | words + 1, address =>
    addressValues words (address / 2 ^ 32) ++ hexValues 8 (byteSwapped (address % 2 ^ 32))

def Endpoint.text {words : Nat} (endpoint : Endpoint words) : List Char :=
  (addressValues words endpoint.address.toNat).map hexCapital ++
    ':' :: hexText 4 endpoint.port.toNat

/-- A row for a socket: its slot, both ends and the code of its state, and anything behind them. The
case of letters is left open. -/
inductive IsRow {words : Nat} (socket : KernelSocket words) : List Char → Prop where
  | intro {indent slot near far code rest : List Char}
      (hIndent : ∀ c ∈ indent, c = ' ') (hSlot : IsWord slot)
      (hNear : InEitherCase near socket.near.text) (hFar : InEitherCase far socket.far.text)
      (hCode : InEitherCase code (hexText 2 socket.code.toNat))
      (hRest : EndsWord rest) (hLine : IsLine rest) :
      IsRow socket (indent ++ (slot ++ ' ' :: (near ++ ' ' :: (far ++ ' ' :: (code ++ rest)))))

/-- A table of sockets: a header and then a row for each of them, every one on a line of its own. -/
def IsTable {words : Nat} (sockets : List (KernelSocket words)) (text : List Char) : Prop :=
  ∃ header rows, IsLine header ∧ List.Forall₂ IsRow sockets rows ∧
    text = (header :: rows).flatMap (· ++ ['\n'])

def HoldsTable {words : Nat} (t : Tree) (path : Path) (sockets : List (KernelSocket words)) :
    Prop :=
  ∃ text, IsTable sockets text ∧ t.read path = .ok (Utf8.encode (String.ofList text))

/-! ## What is counted -/

def TcpState.code : TcpState → Nat
  | .established => 1
  | .synSent => 2
  | .synRecv => 3
  | .finWait1 => 4
  | .finWait2 => 5
  | .timeWait => 6
  | .close => 7
  | .closeWait => 8
  | .lastAck => 9
  | .listen => 10
  | .closing => 11
  | .newSynRecv => 12

/-- The addresses of ::ffff:0:0/96, whose first 96 bits are zeros and then sixteen ones. -/
def Endpoint.isMapped (endpoint : Endpoint 4) : Bool := endpoint.address.toNat / 2 ^ 32 == 0xFFFF

namespace KernelSocket

variable {words : Nat}

def isIn (state : TcpState) (socket : KernelSocket words) : Bool :=
  socket.code.toNat == state.code

/-- Whether the code of a socket is that of no state. -/
def isStateless (socket : KernelSocket words) : Bool :=
  ¬ (1 ≤ socket.code.toNat ∧ socket.code.toNat ≤ 12)

/-- A socket of the second family that counts as of the first. -/
def isMapped (socket : KernelSocket 4) : Bool := socket.near.isMapped || socket.far.isMapped

/-- What a socket of a family is counted as. -/
def counted (version : IpVersion) (socket : KernelSocket words) : Socket :=
  ⟨TcpState.ofCode? socket.code.toNat, version⟩

/-- The family under which a socket of the second table counts. -/
def version (socket : KernelSocket 4) : IpVersion := if socket.isMapped then .four else .six

end KernelSocket

/-! ## States by their codes -/

namespace TcpState

/-- Only the codes from one to twelve are those of states. -/
theorem ofCode?_eq_none {code : Nat} : ofCode? code = none ↔ ¬ (1 ≤ code ∧ code ≤ 12) := by
  have hLength : all.length = 12 := rfl
  have hIndex : ((code : Int) - 1).toNat = code - 1 := by omega
  unfold ofCode?
  by_cases h : 0 < code
  · rw [if_pos (by omega), hIndex, List.getElem?_eq_none_iff]
    omega
  · rw [if_neg (by omega)]
    exact iff_of_true rfl (by omega)

theorem ofCode?_code (state : TcpState) : ofCode? state.code = some state := by
  cases state <;> rfl

theorem ofCode?_eq_some {code : Nat} {state : TcpState} :
    ofCode? code = some state ↔ code = state.code := by
  constructor
  · intro h
    have hCode : 1 ≤ code ∧ code ≤ 12 := by
      by_contra hNone
      rw [ofCode?_eq_none.mpr hNone] at h
      cases h
    have hCodes : ∀ code < 13, (ofCode? (code : Nat)).all (·.code = code) := by decide
    simpa [h, eq_comm] using hCodes code (by omega)
  · rintro rfl
    exact ofCode?_code state

end TcpState

/-! ## Reading an end of a connection -/

section Endpoint

variable {words : Nat} {endpoint : Endpoint words} {text : List Char}

theorem lt_of_mem_addressValues {count address d : Nat} (h : d ∈ addressValues count address) :
    d < 16 := by
  induction count generalizing address with
  | zero => exact absurd h List.not_mem_nil
  | succ count ih =>
      rcases List.mem_append.mp h with h | h
      · exact ih h
      · exact lt_of_mem_hexValues h

/-- In either case a colon stands between an address and its port. -/
theorem exists_of_inEitherCase_text (h : InEitherCase text endpoint.text) :
    ∃ host port, text = host ++ ':' :: port ∧
      InEitherCase host ((addressValues words endpoint.address.toNat).map hexCapital) ∧
      InEitherCase port (hexText 4 endpoint.port.toNat) := by
  obtain ⟨host, rest, rfl, hHost, hRest⟩ := List.map_eq_append_iff.mp h
  obtain ⟨colon, port, rfl, hColon, hPort⟩ := List.map_eq_cons_iff.mp hRest
  have hSame : colon = ':' := by
    rcases eq_or_eq_toLower_of_toUpper hColon with h | h <;> exact h
  exact ⟨host, port, by rw [hSame], hHost, hPort⟩

/-- An address is written with the digits of base sixteen only. -/
theorem mem_hexChars_of_address {host : List Char}
    (h : InEitherCase host ((addressValues words endpoint.address.toNat).map hexCapital)) {c : Char}
    (hc : c ∈ host) : c ∈ hexChars :=
  h.mem_hexChars (fun _ hd => lt_of_mem_addressValues hd) hc

/-- An endpoint is one word, in capital letters or in small ones. -/
theorem isWord_of_inEitherCase_text (h : InEitherCase text endpoint.text) : IsWord text := by
  obtain ⟨host, port, rfl, hHost, hPort⟩ := exists_of_inEitherCase_text h
  refine ⟨by simp, fun c hc => ?_⟩
  rcases List.mem_append.mp hc with hc | hc
  · exact not_isBlank_of_mem_hexChars (mem_hexChars_of_address hHost hc)
  · rcases List.mem_cons.mp hc with rfl | hc
    · decide
    · exact hPort.isWord.not_blank c hc

theorem byteSwapped_lt (word : Nat) : byteSwapped word < 16 ^ 8 := by
  unfold byteSwapped
  omega

/-- The four bytes of a word are read from the other end. -/
theorem byteSwapped_bytes {a b c d : Nat} (ha : a < 2 ^ 8) (hb : b < 2 ^ 8) (hc : c < 2 ^ 8)
    (hd : d < 2 ^ 8) : byteSwapped (a * 2 ^ 24 + b * 2 ^ 16 + c * 2 ^ 8 + d) =
      d * 2 ^ 24 + c * 2 ^ 16 + b * 2 ^ 8 + a := by
  have hFirst : (a * 2 ^ 24 + b * 2 ^ 16 + c * 2 ^ 8 + d) / 2 ^ 24 = a := by omega
  have hSecond : (a * 2 ^ 24 + b * 2 ^ 16 + c * 2 ^ 8 + d) / 2 ^ 16 = a * 2 ^ 8 + b := by omega
  have hThird : (a * 2 ^ 24 + b * 2 ^ 16 + c * 2 ^ 8 + d) / 2 ^ 8 =
      a * 2 ^ 16 + b * 2 ^ 8 + c := by omega
  rw [byteSwapped, hFirst, hSecond, hThird]
  omega

/-- To swap the bytes twice is to leave them. -/
theorem byteSwapped_byteSwapped {word : Nat} (h : word < 2 ^ 32) :
    byteSwapped (byteSwapped word) = word := by
  have hByte (n : Nat) : n % 2 ^ 8 < 2 ^ 8 := Nat.mod_lt _ (by decide)
  have hSwapped : byteSwapped (byteSwapped word) = word / 2 ^ 24 % 2 ^ 8 * 2 ^ 24 +
      word / 2 ^ 16 % 2 ^ 8 * 2 ^ 16 + word / 2 ^ 8 % 2 ^ 8 * 2 ^ 8 + word % 2 ^ 8 :=
    byteSwapped_bytes (hByte _) (hByte _) (hByte _) (hByte _)
  omega

/-- No two words have the same bytes from the other end. -/
theorem byteSwapped_inj {a b : Nat} (ha : a < 2 ^ 32) (hb : b < 2 ^ 32)
    (h : byteSwapped a = byteSwapped b) : a = b := by
  rw [← byteSwapped_byteSwapped ha, h, byteSwapped_byteSwapped hb]

theorem length_addressValues (count address : Nat) :
    (addressValues count address).length = count * 8 := by
  induction count generalizing address with
  | zero => rfl
  | succ count ih =>
      rw [addressValues, List.length_append, ih, length_hexValues]
      omega

/-- An address is known by its digits. -/
theorem addressValues_inj {count m n : Nat} (hm : m < 2 ^ (32 * count))
    (hn : n < 2 ^ (32 * count)) :
    addressValues count m = addressValues count n ↔ m = n := by
  refine ⟨fun h => ?_, fun h => h ▸ rfl⟩
  induction count generalizing m n with
  | zero =>
      have hPow : 2 ^ (32 * 0) = 1 := rfl
      omega
  | succ count ih =>
      rw [Nat.mul_succ, Nat.pow_add] at hm hn
      obtain ⟨hFront, hLast⟩ := List.append_inj' h (by simp only [length_hexValues])
      have hWords : m / 2 ^ 32 = n / 2 ^ 32 :=
        ih (Nat.div_lt_of_lt_mul (by rwa [Nat.mul_comm]))
          (Nat.div_lt_of_lt_mul (by rwa [Nat.mul_comm])) hFront
      have hWord : m % 2 ^ 32 = n % 2 ^ 32 :=
        byteSwapped_inj (Nat.mod_lt _ (by decide)) (Nat.mod_lt _ (by decide))
          ((hexValues_inj (byteSwapped_lt _) (byteSwapped_lt _)).mp hLast)
      omega

/-- The form in which mapped addresses begin is that of the first 96 bits of these addresses. -/
theorem mappedMark_eq : mappedMark = (addressValues 3 0xFFFF).map hexCapital := by decide

/-- Whether the text of an end begins like a mapped address tells whether its address is one. -/
theorem isMapped_of_inEitherCase {endpoint : Endpoint 4} {text : List Char}
    (h : InEitherCase text endpoint.text) : isMapped text = endpoint.isMapped := by
  obtain ⟨host, port, rfl, hHost, -⟩ := exists_of_inEitherCase_text h
  have hColon : ':' ∉ host := fun hc =>
    absurd (mem_hexChars_of_address hHost hc) (by decide)
  -- The mark has the length of three words, so what is compared with it are the first 96 bits.
  have hTake : (host.take mappedMark.length).map Char.toUpper =
      (addressValues 3 (endpoint.address.toNat / 2 ^ 32)).map hexCapital := by
    have hFront : (addressValues 4 endpoint.address.toNat).take 24 =
        addressValues 3 (endpoint.address.toNat / 2 ^ 32) :=
      List.take_left' (length_addressValues 3 _)
    rw [List.map_take, hHost, ← List.map_take, ← hFront]
    rfl
  have hAddress : endpoint.address.toNat / 2 ^ 32 < 2 ^ (32 * 3) :=
    Nat.div_lt_of_lt_mul endpoint.address.isLt
  rw [isMapped, splitFirst?_append hColon]
  dsimp only
  rw [hTake, mappedMark_eq, Endpoint.isMapped, Bool.eq_iff_iff, beq_iff_eq, beq_iff_eq,
    map_hexCapital_inj (fun _ hd => lt_of_mem_addressValues hd)
      (fun _ hd => lt_of_mem_addressValues hd),
    addressValues_inj hAddress (by decide)]

end Endpoint

/-! ## Reading rows -/

section Row

variable {words : Nat} {socket : KernelSocket words} {line : List Char}

theorem IsRow.isLine (h : IsRow socket line) : IsLine line := by
  obtain ⟨hIndent, hSlot, hNear, hFar, hCode, -, hLine⟩ := h
  have hSpace : ¬ isLineBreak ' ' := by decide
  intro c hc
  simp only [List.mem_append, List.mem_cons] at hc
  rcases hc with hc | hc | rfl | hc | rfl | hc | rfl | hc | hc
  · rw [hIndent c hc]
    exact hSpace
  · exact hSlot.isLine c hc
  · exact hSpace
  · exact (isWord_of_inEitherCase_text hNear).isLine c hc
  · exact hSpace
  · exact (isWord_of_inEitherCase_text hFar).isLine c hc
  · exact hSpace
  · exact hCode.isWord.isLine c hc
  · exact hLine c hc

/-- The columns of a row are found where they were put. -/
theorem IsRow.row?_eq (h : IsRow socket line) : ∃ near far,
    row? line = some ((socket.code.toNat : Int), near, far) ∧
      InEitherCase near socket.near.text ∧ InEitherCase far socket.far.text := by
  obtain @⟨indent, slot, near, far, code, rest, hIndent, hSlot, hNear, hFar, hCode, hRest, -⟩ := h
  have hWords : Text.words
      (indent ++ (slot ++ ' ' :: (near ++ ' ' :: (far ++ ' ' :: (code ++ rest))))) =
      slot :: near :: far :: code :: Text.words rest := by
    have hBlanks : ∀ c ∈ indent, isBlank c := fun c hc => by
      rw [hIndent c hc]
      decide
    rw [words_append_blank hBlanks, words_append_space hSlot,
      words_append_space (isWord_of_inEitherCase_text hNear),
      words_append_space (isWord_of_inEitherCase_text hFar), words_append hCode.isWord hRest]
  refine ⟨near, far, ?_, hNear, hFar⟩
  unfold row?
  rw [hWords]
  dsimp only
  rw [hexInteger?_of_inEitherCase socket.code.isLt hCode]
  rfl

/-- A row of the first table counts under the first family, whatever its addresses are. -/
theorem IsRow.socket?_four (h : IsRow socket line) :
    socket? .four line = some (socket.counted .four) := by
  obtain ⟨near, far, hRow, -, -⟩ := h.row?_eq
  rw [socket?, hRow]
  rfl

/-- A row of the second table counts under the family of its addresses. -/
theorem IsRow.socket?_six {socket : KernelSocket 4} (h : IsRow socket line) :
    socket? .six line = some (socket.counted socket.version) := by
  obtain ⟨near, far, hRow, hNear, hFar⟩ := h.row?_eq
  rw [socket?, hRow]
  simp [KernelSocket.counted, KernelSocket.version, KernelSocket.isMapped,
    isMapped_of_inEitherCase hNear, isMapped_of_inEitherCase hFar]

end Row

/-! ## Reading tables -/

section Table

variable {words : Nat} {all : List (KernelSocket words)} {text : List Char}

theorem isLine_of_mem_rows {rows : List (List Char)} (h : List.Forall₂ IsRow all rows) :
    ∀ row ∈ rows, IsLine row := by
  induction h with
  | nil => exact fun _ h => absurd h List.not_mem_nil
  | cons hRow _ ih =>
      intro row h
      rcases List.mem_cons.mp h with rfl | h
      · exact hRow.isLine
      · exact ih row h

/-- A table gives one socket for each of its rows, if each row gives one. -/
theorem sockets_of_isTable {version : IpVersion} {count : KernelSocket words → Socket}
    (hRow : ∀ socket line, IsRow socket line → socket? version line = some (count socket))
    (h : IsTable all text) : sockets version text = all.map count := by
  obtain ⟨header, rows, hHeader, hRows, rfl⟩ := h
  rw [sockets, lines_flatMap (List.forall_mem_cons.mpr ⟨hHeader, isLine_of_mem_rows hRows⟩),
    List.tail_cons]
  induction hRows with
  | nil => rfl
  | cons h _ ih => rw [List.filterMap_cons, hRow _ _ h, ih, List.map_cons]

theorem HoldsTable.readText_eq {t : Tree} {path : Path} (h : HoldsTable t path all) :
    ∃ text, IsTable all text ∧ t.readText path = .ok text := by
  obtain ⟨text, hTable, hRead⟩ := h
  refine ⟨text, hTable, ?_⟩
  obtain ⟨header, rows, hHeader, hRows, rfl⟩ := hTable
  unfold Tree.readText
  rw [hRead]
  dsimp only
  rw [Utf8.decode_encode]
  dsimp only
  rw [unifyNewlines_flatMap
    (List.forall_mem_cons.mpr ⟨hHeader, isLine_of_mem_rows hRows⟩)]

end Table

/-! ## Counting -/

/-- Whether a socket is in a state, or in none if none is given. -/
def KernelSocket.isAs {words : Nat} : Option TcpState → KernelSocket words → Bool
  | some state => isIn state
  | none => isStateless

/-- The state that is read is that of the socket, or none for a code that is not known. -/
theorem KernelSocket.ofCode?_eq {words : Nat} (state : Option TcpState)
    (socket : KernelSocket words) :
    TcpState.ofCode? socket.code.toNat = state ↔ socket.isAs state := by
  cases state with
  | none => simp only [isAs, isStateless, TcpState.ofCode?_eq_none, decide_eq_true_eq]
  | some state => simp only [isAs, isIn, TcpState.ofCode?_eq_some, beq_iff_eq]

/-- Of each kind there are as many sockets as have its state and its family. -/
theorem count_counted {words : Nat} (all : List (KernelSocket words))
    (family : KernelSocket words → IpVersion) (state : Option TcpState) (version : IpVersion) :
    (all.map fun socket => socket.counted (family socket)).count ⟨state, version⟩ =
      all.countP fun socket => socket.isAs state && family socket == version := by
  rw [List.count_eq_countP, List.countP_map]
  refine List.countP_congr fun socket _ => ?_
  simp only [Function.comp_apply, KernelSocket.counted, beq_iff_eq, Socket.mk.injEq,
    Bool.and_eq_true, KernelSocket.ofCode?_eq]

section Families

variable {fours : List (KernelSocket 1)} {sixes : List (KernelSocket 4)} {four six : List Char}
  (hFours : sockets .four four = fours.map (·.counted .four))
  (hSixes : sockets .six six = sixes.map fun socket => socket.counted socket.version)
include hFours hSixes

/-- Under the first family count the sockets of the first table and the mapped ones of the
second. -/
theorem count_four (state : Option TcpState) :
    0 + (sockets .four four).count ⟨state, .four⟩ + (sockets .six six).count ⟨state, .four⟩ =
      fours.countP (·.isAs state) +
        sixes.countP fun socket => socket.isAs state && socket.isMapped := by
  have hVersion (socket : KernelSocket 4) : (socket.version == .four) = socket.isMapped := by
    unfold KernelSocket.version
    cases socket.isMapped <;> rfl
  rw [hFours, hSixes, count_counted fours fun _ => .four, count_counted]
  simp only [hVersion, Nat.zero_add, beq_self_eq_true, Bool.and_true]

/-- Under the second family count the other sockets of the second table, and none of the first. -/
theorem count_six (state : Option TcpState) :
    0 + (sockets .four four).count ⟨state, .six⟩ + (sockets .six six).count ⟨state, .six⟩ =
      sixes.countP fun socket => socket.isAs state && !socket.isMapped := by
  have hVersion (socket : KernelSocket 4) : (socket.version == .six) = !socket.isMapped := by
    unfold KernelSocket.version
    cases socket.isMapped <;> rfl
  have hFour : (IpVersion.four == IpVersion.six) = false := rfl
  rw [hFours, hSixes, count_counted fours fun _ => .four, count_counted]
  simp [hVersion, hFour]

end Families

/-- Every state has one number under each family, and nothing else has any. -/
theorem SocketCounts.table_spec (counts : SocketCounts) :
    Keyed.Distinct counts.table ∧ counts.table.length = 24 ∧
      ∀ state version, Keyed.get? (state.name, version.name) counts.table =
        some (counts.known state version : Int) := by
  have hKeys : counts.table.map (·.1) =
      TcpState.all.flatMap fun state => IpVersion.all.map fun version =>
        (state.name, version.name) := rfl
  have hDistinct : Keyed.Distinct counts.table := by
    rw [Keyed.Distinct, hKeys]
    decide +kernel
  refine ⟨hDistinct, rfl, fun state version => (hDistinct.mem_iff _ _).mp ?_⟩
  exact List.mem_flatMap.mpr ⟨state, TcpState.mem_all state,
    List.mem_map.mpr ⟨version, IpVersion.mem_all version, rfl⟩⟩

/-- Of the two tables that the kernel writes for some sockets, exactly these sockets are counted. A
state has the sockets of the first family in it, and with them those of the second that have a
mapped address; the others of the second family count as such. Sockets in no state are told apart
by the same rule. A table of the second family that is not there holds no sockets. -/
theorem readSockets_of_tables {t : Tree} {procRoot : Path} {fours : List (KernelSocket 1)}
    {sixes : List (KernelSocket 4)}
    (hFour : HoldsTable t ((procRoot.child "net").child "tcp") fours)
    (hSix : HoldsTable t ((procRoot.child "net").child "tcp6") sixes ∨
      t.read ((procRoot.child "net").child "tcp6") = .error .noSuchFile ∧ sixes = []) :
    ∃ counts, readSockets t procRoot = .ok counts ∧
      Keyed.Distinct counts.table ∧ counts.table.length = 24 ∧
      (∀ state : TcpState,
        Keyed.get? (state.name, "4") counts.table =
          some ↑(fours.countP (·.isIn state) +
            sixes.countP fun socket => socket.isIn state && socket.isMapped) ∧
        Keyed.get? (state.name, "6") counts.table =
          some ↑(sixes.countP fun socket => socket.isIn state && !socket.isMapped)) ∧
      counts.unknown .four = fours.countP (·.isStateless) +
        sixes.countP (fun socket => socket.isStateless && socket.isMapped) ∧
      counts.unknown .six =
        sixes.countP fun socket => socket.isStateless && !socket.isMapped := by
  obtain ⟨four, hFourTable, hFourText⟩ := hFour.readText_eq
  have hFours : sockets .four four = fours.map fun socket => socket.counted .four :=
    sockets_of_isTable (fun _ _ h => h.socket?_four) hFourTable
  obtain ⟨six, hSixText, hSixes⟩ : ∃ six, readSockets t procRoot =
      .ok ((SocketCounts.zero.addTable .four four).addTable .six six) ∧
      sockets .six six = sixes.map fun socket => socket.counted socket.version := by
    -- A table that is not there leaves the counts as one with no line would.
    rcases hSix with hSix | ⟨hAbsent, rfl⟩
    · obtain ⟨six, hTable, hText⟩ := hSix.readText_eq
      refine ⟨six, ?_, sockets_of_isTable (fun _ _ h => h.socket?_six) hTable⟩
      simp only [readSockets, hFourText, hText]
      rfl
    · have hText : t.readText ((procRoot.child "net").child "tcp6") =
          .error (.io ⟨.noSuchFile, ((procRoot.child "net").child "tcp6").toString⟩) := by
        rw [Tree.readText, hAbsent]
      refine ⟨[], ?_, rfl⟩
      simp only [readSockets, hFourText, hText]
      rfl
  refine ⟨_, hSixText, ?_⟩
  obtain ⟨hDistinct, hLength, hGet⟩ :=
    ((SocketCounts.zero.addTable .four four).addTable .six six).table_spec
  refine ⟨hDistinct, hLength, fun state => ⟨?_, ?_⟩, ?_, ?_⟩
  · exact (hGet state .four).trans
      (congrArg (some ∘ Nat.cast) (count_four hFours hSixes (some state)))
  · exact (hGet state .six).trans
      (congrArg (some ∘ Nat.cast) (count_six hFours hSixes (some state)))
  · exact count_four hFours hSixes none
  · exact count_six hFours hSixes none

/-! A host with a listener, a socket in no state, a connection over a mapped address whose letters
are small, and one within the host. -/

def listener : KernelSocket 1 := ⟨⟨0, 22⟩, ⟨0, 0⟩, 0x0A⟩

def stateless : KernelSocket 1 := ⟨⟨0x7F000001, 80⟩, ⟨0, 0⟩, 0xFF⟩

/-- A connection from ::ffff:10.0.0.1 to port 443. -/
def mappedConnection : KernelSocket 4 := ⟨⟨0xFFFF0A000001, 443⟩, ⟨0x20010DB8 <<< 96, 4660⟩, 1⟩

def innerConnection : KernelSocket 4 := ⟨⟨1, 6000⟩, ⟨1, 6001⟩, 1⟩

def rowOf (slot near far code rest : String) : List Char :=
  [' '] ++ (slot.toList ++ ' ' ::
    (near.toList ++ ' ' :: (far.toList ++ ' ' :: (code.toList ++ rest.toList))))

theorem isRow_rowOf {words : Nat} {socket : KernelSocket words} {slot near far code rest : String}
    (h : IsWord slot.toList ∧ InEitherCase near.toList socket.near.text ∧
      InEitherCase far.toList socket.far.text ∧
      InEitherCase code.toList (hexText 2 socket.code.toNat) ∧
      EndsWord rest.toList ∧ IsLine rest.toList) :
    IsRow socket (rowOf slot near far code rest) :=
  have ⟨hSlot, hNear, hFar, hCode, hRest, hLine⟩ := h
  .intro (by simp) hSlot hNear hFar hCode hRest hLine

def fourText : List Char :=
  ["  sl  local_address rem_address   st".toList,
    rowOf "0:" "00000000:0016" "00000000:0000" "0A" " 00000000:00000000 00:00000000",
    rowOf "1:" "0100007F:0050" "00000000:0000" "fF" ""].flatMap (· ++ ['\n'])

def sixText : List Char :=
  ["  sl  local_address remote_address st".toList,
    rowOf "0:" "0000000000000000ffff00000100000a:01bb" "B80D0120000000000000000000000000:1234"
      "01" " 0",
    rowOf "1:" "00000000000000000000000001000000:1770" "00000000000000000000000001000000:1771"
      "01" " 0"].flatMap (· ++ ['\n'])

def dualStackHost : Tree :=
  ⟨[(["proc"], .directory), (["proc", "net"], .directory),
    (["proc", "net", "tcp"], .file (Utf8.encode (String.ofList fourText))),
    (["proc", "net", "tcp6"], .file (Utf8.encode (String.ofList sixText)))]⟩

/-- The mapped connection counts with the sockets of the first family. -/
theorem readSockets_of_dualStackHost :
    HoldsTable dualStackHost ⟨.root, ["proc", "net", "tcp"]⟩ [listener, stateless] ∧
    HoldsTable dualStackHost ⟨.root, ["proc", "net", "tcp6"]⟩ [mappedConnection, innerConnection] ∧
    ∃ counts, readSockets dualStackHost ⟨.root, ["proc"]⟩ = .ok counts ∧
      Keyed.get? ("LISTEN", "4") counts.table = some 1 ∧
      Keyed.get? ("ESTABLISHED", "4") counts.table = some 1 ∧
      Keyed.get? ("ESTABLISHED", "6") counts.table = some 1 ∧ counts.unknown .four = 1 := by
  have hFour : HoldsTable dualStackHost ⟨.root, ["proc", "net", "tcp"]⟩ [listener, stateless] :=
    ⟨fourText, ⟨_, _, by decide, .cons (isRow_rowOf (by decide +kernel))
      (.cons (isRow_rowOf (by decide +kernel)) .nil), rfl⟩, rfl⟩
  have hSix : HoldsTable dualStackHost ⟨.root, ["proc", "net", "tcp6"]⟩
      [mappedConnection, innerConnection] :=
    ⟨sixText, ⟨_, _, by decide, .cons (isRow_rowOf (by decide +kernel))
      (.cons (isRow_rowOf (by decide +kernel)) .nil), rfl⟩, rfl⟩
  obtain ⟨counts, hCounts, -, -, hGet, hUnknown, -⟩ :=
    @readSockets_of_tables dualStackHost ⟨.root, ["proc"]⟩ _ _ hFour (.inl hSix)
  refine ⟨hFour, hSix, counts, hCounts, ?_, ?_, ?_, ?_⟩
  · exact (hGet .listen).1
  · exact (hGet .established).1
  · exact (hGet .established).2
  · exact hUnknown

end PodGauges.Network
