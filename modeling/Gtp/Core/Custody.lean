/-
# A reliable fragment is given up to the peer only

The sender forgets a reliable fragment when a record that holds it is acknowledged.  This module
follows the acknowledgement to its source, across both ends of a session (`reliable_custody`).  A
record is filed under the number of the sheet whose frames it keeps (`Filed`); an ACK frame names
numbers that its sender has opened (`ack_names_opened`); and what the peer opens under a number is
the sheet with that number.  So a fragment that was acknowledged lies in a datagram that the peer
has opened, with the piece that was posted.

Opened is not read: an MTU probe swallows what follows it in its datagram, and the peer acknowledges
the datagram all the same.  The theorem names this case and no other.

And read is not kept: the peer may discard a fragment that it has read, for instance one that comes
before the first fragment of its message, and acknowledges it as well.  So this is about what the
sender gives up, not about what is delivered; when a peer keeps what it reads is the subject of
`Gtp.Core.Keeping`.
-/
import Gtp.Core.AckDuty
import Gtp.Core.Integrity
import Gtp.Core.Ledger

namespace Gtp

open Frame PacketBuilder

/-! ## 1. What the peer reads of a sheet -/

section Read

variable {fs : List Frame} {f : Frame}

/-- An ACK that is read was written, up to its canonical form. -/
theorem ack_of_received {l : PacketNumber} {d : UInt32} {r : AckRanges} {n : UInt8}
    {e0 e1 ce : UInt32} (h : .ack l d r n e0 e1 ce ∈ received fs) :
    ∃ f ∈ fs, f.canon = .ack l d r n e0 e1 ce := by
  induction fs with
  | nil => cases h
  | cons f fs ih =>
    cases f with
    | mtuProbe id pad => cases List.mem_singleton.mp h
    | _ =>
      rcases List.mem_cons.mp h with h | h
      · exact ⟨_, List.mem_cons_self, h.symm⟩
      · obtain ⟨g, hg, heq⟩ := ih h
        exact ⟨g, List.mem_cons_of_mem _ hg, heq⟩

/-- A reliable frame is read, unless a probe swallows it. -/
theorem mem_received_or_probe {id : MessageId} {fid : FragmentId} {n : UInt16}
    {g : OrderedGroupId} {q : UInt32} {p : List UInt8} (h : .reliableData id fid n g q p ∈ fs) :
    .reliableData id fid n g q p ∈ received fs ∨ ∃ probe pad, .mtuProbe probe pad ∈ fs := by
  induction fs with
  | nil => cases h
  | cons f fs ih =>
    by_cases hprobe : ∃ probe pad, f = .mtuProbe probe pad
    · obtain ⟨probe, pad, rfl⟩ := hprobe
      exact Or.inr ⟨probe, pad, List.mem_cons_self⟩
    · have hrec : received (f :: fs) = f.canon :: received fs := by
        cases f with
        | mtuProbe probe pad => exact absurd ⟨probe, pad, rfl⟩ hprobe
        | _ => rfl
      rw [hrec]
      rcases List.mem_cons.mp h with rfl | h
      · exact Or.inl List.mem_cons_self
      · rcases ih h with h | ⟨probe, pad, h⟩
        · exact Or.inl (List.mem_cons_of_mem _ h)
        · exact Or.inr ⟨probe, pad, List.mem_cons_of_mem _ h⟩

/-- The ACK of a tracker is in canonical form. -/
theorem AckTracker.peekAckFrame_canon {t : AckTracker} {now : MonotonicTime}
    (h : t.peekAckFrame now = some f) : f.canon = f := by
  unfold AckTracker.peekAckFrame at h
  obtain ⟨largest, -, rfl⟩ := Option.map_eq_some_iff.mp h
  have hle : (AckTracker.ackRangesOf t.intervals).length ≤ maxAckRanges :=
    AckAgreement.length_ackRangesOf_le t.intervals
  have hbyte : (UInt8.ofNat (AckTracker.ackRangesOf t.intervals).length).toNat =
      (AckTracker.ackRangesOf t.intervals).length := by
    rw [UInt8.toNat_ofNat', Nat.mod_eq_of_lt (Nat.lt_of_le_of_lt hle (by decide))]
  have htake := AckAgreement.take_ofList hle
  rw [hbyte] at htake
  dsimp only
  rw [Frame.canon, ackCount, hbyte, Nat.min_eq_left hle, htake]

end Read

/-! ## 2. The records of sent packets -/

/-- The frame that a record is kept for. -/
def RetransmissionRecord.frame (r : RetransmissionRecord) : Frame :=
  .reliableData r.messageId r.fragmentId r.totalFragments r.groupId r.orderSeq r.payload

/-- The record of an item is of the frame that the item is sent as. -/
theorem GtpConnection.itemFrame_of_record {x : SchedulableItem} {r : RetransmissionRecord}
    (h : GtpConnection.retransmissionRecord x = some r) :
    GtpConnection.itemFrame x = r.frame := by
  unfold GtpConnection.retransmissionRecord at h
  unfold GtpConnection.itemFrame
  dsimp only at h
  split at h
  · rename_i hclass
    obtain rfl := Option.some.inj h
    rw [hclass]
    rfl
  · rename_i g q hclass
    obtain rfl := Option.some.inj h
    rw [hclass]
    rfl
  · cases h

/-- Every record is filed under the number of a sheet, and keeps frames of it. -/
def Filed (sheets : List Sheet) (d : LossDetector) : Prop :=
  ∀ (pn : Nat) record, d.sentPackets[pn]? = some record → ∀ r ∈ record.retransmittableFrames,
    ∃ sheet ∈ sheets, sheet.packetNumber.toNat = pn ∧ r.frame ∈ sheet.frames

section Filed

variable {sheets sheets' : List Sheet} {d d' : LossDetector}

theorem Filed.mono (h : Filed sheets d) (hsub : sheets ⊆ sheets') : Filed sheets' d := by
  intro pn record hget r hr
  obtain ⟨sheet, hsheet, hfiled⟩ := h pn record hget r hr
  exact ⟨sheet, hsub hsheet, hfiled⟩

theorem Filed.shrinks (h : Filed sheets d) (hshrink : LossDetector.Shrinks d d') :
    Filed sheets d' := fun pn record hget => h pn record (hshrink.sub pn record hget)

end Filed

namespace GtpConnection

variable [CryptoSuite]

theorem sealedIn_packetNumber {c : GtpConnection} {op : Op} {sheet : Sheet}
    (h : c.sealedIn op = some sheet) : sheet.packetNumber = c.hot.nextPacketNumber := by
  unfold sealedIn at h
  split at h
  · split at h
    · obtain ⟨d, -, rfl⟩ := Option.map_eq_some_iff.mp h
      rfl
    · cases h
  · cases h

theorem datagramOf_of_sealedIn {c : GtpConnection} {op : Op} {sheet : Sheet}
    (h : c.sealedIn op = some sheet) : ∃ sent, c.datagramOf op = some sent := by
  unfold sealedIn at h
  split at h
  · split at h
    · exact ⟨_, ‹_›⟩
    · cases h
  · cases h

/-- **An outgoing datagram** files its record under its number. -/
theorem produce_filed {c : GtpConnection} {sheets : List Sheet} (h : Filed sheets c.hot.lossDetector)
    (now : MonotonicTime) (outBuf : List UInt8) :
    Filed (sheets ++ (c.sealedIn (.produce now outBuf)).toList)
      (c.produceOutgoingDatagram now outBuf).conn.hot.lossDetector := by
  cases hs : c.sealedIn (.produce now outBuf) with
  | some sheet =>
    have hnumber := sealedIn_packetNumber hs
    obtain ⟨b, len, hcar, hframes, hconn⟩ := sealedIn_produce hs
    have hass := (c.prepare now).assemble_spec hcar now
    obtain ⟨ld, cc, s, pv, pac, cold, ev, hprep, hshrink, -⟩ := c.prepare_spec now
    obtain ⟨keys, n, pending, controller, path, closed, hcommit⟩ :=
      ((c.prepare now).assemble b now).2.commit_frame ((c.prepare now).assemble b now).1 len now
    generalize (c.prepare now).assemble b now = r at hass hframes hconn hcommit
    obtain ⟨d, c2⟩ := r
    dsimp only at hass hframes hconn hcommit
    have hpn : c2.hot.nextPacketNumber = c.hot.nextPacketNumber := by rw [hass.conn, hprep]
    have hld : c2.hot.lossDetector = ld := by rw [hass.conn, hprep]
    rw [hconn, hcommit]
    intro pn record hget rec hrec
    simp only [LossDetector.onPacketSent, hld, Maps.getElem?_insert] at hget
    split at hget
    · rename_i hkey
      obtain rfl := Option.some.inj hget
      obtain ⟨x, hx, hitem⟩ := List.mem_filterMap.mp hrec
      refine ⟨sheet, List.mem_append_right _ (List.mem_singleton_self _), ?_, ?_⟩
      · rw [hnumber, ← hkey, hpn]
      · rw [hframes, ← itemFrame_of_record hitem]
        exact List.mem_append_right _ (List.mem_map_of_mem hx)
    · obtain ⟨sheet', hsheet', hfiled⟩ := h pn record (hshrink.sub pn record hget) rec hrec
      exact ⟨sheet', List.mem_append_left _ hsheet', hfiled⟩
  | none =>
    obtain ⟨st, ld, cc, s, pv, pac, cold, ev, hconn, hshrink, -⟩ :=
      produce_none (unsent_of_sealedIn hs)
    rw [hconn, Option.toList_none, List.append_nil]
    exact h.shrinks hshrink

/-- **Every call.** -/
theorem step_filed {c : GtpConnection} (hnum : c.Numbered) {sheets : List Sheet}
    (h : Filed sheets c.hot.lossDetector) (op : Op) :
    Filed (sheets ++ (c.sealedIn op).toList) (c.step op).hot.lossDetector := by
  have hquiet : ∀ hot : ConnectionHot, hot.lossDetector = c.hot.lossDetector →
      Filed (sheets ++ []) hot.lossDetector := by
    intro hot hsame
    rw [List.append_nil, hsame]
    exact h
  cases op with
  | handleIncoming src dg now ecn =>
    have hpath := (c.handle_path hnum src dg now ecn).1
    exact (h.shrinks hpath.records).mono (List.subset_append_left _ _)
  | produce now outBuf => exact produce_filed h now outBuf
  | sendUnreliable payload priority deadline now =>
    obtain ⟨s, id, hs⟩ := c.sendSingle_frame .unreliable payload priority deadline now
    rw [step, sendUnreliable, hs]
    exact hquiet _ rfl
  | sendSequenced key seq gen deadline payload now =>
    obtain ⟨s, id, hs⟩ := c.sendSingle_frame (.unreliableSequenced key seq gen) payload
      .p2WorldState deadline now
    rw [step, sendSequenced, hs]
    exact hquiet _ rfl
  | sendReliableUnordered payload priority deadline now =>
    obtain ⟨s, id, hs⟩ := c.sendReliableUnordered_frame payload priority deadline now
    rw [step, hs]
    exact hquiet _ rfl
  | sendReliableOrdered g payload priority deadline now =>
    obtain ⟨s, id, seqs, hs⟩ := c.sendReliableOrdered_frame g payload priority deadline now
    rw [step, hs]
    exact hquiet _ rfl
  | gracefulClose code reason =>
    obtain ⟨state, hstate⟩ := (c.queueControl (.close code reason)).changeState_frame .draining
    rw [step, gracefulClose, hstate]
    exact hquiet _ rfl
  | forceClose =>
    obtain ⟨state, hstate⟩ := c.changeState_frame .closed
    rw [step, forceClose, hstate]
    exact hquiet _ rfl
  | ratchetKey =>
    obtain ⟨keys, n, hframe⟩ := c.hot.ratchetSessionKey_frame
    rw [step, hframe]
    exact hquiet _ rfl
  | initiateKeyUpdate =>
    obtain ⟨queue, pending, hframe⟩ := c.hot.ratchetAndAnnounce_frame
    simp only [step, initiateKeyUpdate, hframe]
    exact hquiet _ rfl
  | feedRouteStats id stats =>
    rw [step, feedRouteStats]
    split <;> exact hquiet _ rfl
  | _ => exact hquiet _ rfl

end GtpConnection

/-! ## 3. What is acknowledged -/

/-- The sheet has a frame of the fragment. -/
def Sheet.Bears (sheet : Sheet) (f : Fragment) : Prop :=
  ∃ r : RetransmissionRecord, r.fragment = f ∧ r.frame ∈ sheet.frames

/-- Some ACK among the sheets names the number. -/
def Names (opened : List Sheet) (pn : Nat) : Prop :=
  ∃ sheet ∈ opened, ∃ l d r n e0 e1 ce, .ack l d r n e0 e1 ce ∈ sheet.frames ∧
    pn ∈ LossDetector.parseAckRanges l.toNat r.toList n.toNat

theorem Names.mono {opened opened' : List Sheet} {pn : Nat} (h : Names opened pn)
    (hsub : opened ⊆ opened') : Names opened' pn := by
  obtain ⟨sheet, hsheet, hnames⟩ := h
  exact ⟨sheet, hsub hsheet, hnames⟩

/-- The fragment is in a sheet whose number was named. -/
def Acknowledged (sheets opened : List Sheet) (f : Fragment) : Prop :=
  ∃ sheet ∈ sheets, sheet.Bears f ∧ Names opened sheet.packetNumber.toNat

theorem Acknowledged.mono {sheets sheets' opened opened' : List Sheet} {f : Fragment}
    (h : Acknowledged sheets opened f) (hsheets : sheets ⊆ sheets') (hopened : opened ⊆ opened') :
    Acknowledged sheets' opened' f := by
  obtain ⟨sheet, hsheet, hbears, hnames⟩ := h
  exact ⟨sheet, hsheets hsheet, hbears, hnames.mono hopened⟩

namespace GtpConnection

section Acknowledgement

variable {sheets : List Sheet} {now : MonotonicTime} {f : Fragment}

/-- One frame: what it acknowledges was filed under a number that it names. -/
theorem acknowledgedIn_filed {c : GtpConnection} (h : Filed sheets c.hot.lossDetector)
    {frame : Frame} (hf : f ∈ acknowledgedIn now c frame) {pn : PacketNumber} {fs : List Frame}
    (hframe : frame ∈ fs) : Acknowledged sheets [⟨pn, fs⟩] f := by
  cases frame with
  | ack l d r n e0 e1 ce =>
    obtain ⟨rec, hrec, hfragment⟩ := List.mem_map.mp (Multiset.mem_coe.mp hf)
    obtain ⟨record, hrecord, hin⟩ := List.mem_flatMap.mp hrec
    have hacked := (c.hot.lossDetector.onAckReceived_spec l d r.toList n.toNat now).2.2.1 record
    obtain ⟨k, hk, hget⟩ := hacked.mp hrecord
    obtain ⟨sheet, hsheet, hnumber, hmem⟩ := h k record hget rec hin
    refine ⟨sheet, hsheet, ⟨rec, hfragment, hmem⟩, ⟨pn, fs⟩, List.mem_singleton_self _, l, d, r, n,
      e0, e1, ce, hframe, ?_⟩
    rw [LossDetector.ackedNumbers] at hk
    split at hk
    · cases hk
    · rw [hnumber]
      exact hk
  | _ => exact absurd hf (Multiset.notMem_zero f)

variable [CryptoSuite]

theorem dispatch_shrinks (src : SocketAddr) (s : Dispatch) (frame : Frame) :
    LossDetector.Shrinks s.conn.hot.lossDetector
      (dispatch src now s frame).conn.hot.lossDetector := by
  rcases dispatch_path src now s frame with hkept | ⟨nonce, -, -, hmigrated⟩
  · exact hkept.records
  · rw [hmigrated.lossDetector]
    exact ⟨rfl, fun _ _ h => h⟩

theorem gather_filed (src : SocketAddr) {pn : PacketNumber} {all : List Frame} (fs : List Frame)
    (hall : fs ⊆ all) {s : Dispatch} (h : Filed sheets s.conn.hot.lossDetector)
    (hf : f ∈ gather (acknowledgedIn now) src now s fs) : Acknowledged sheets [⟨pn, all⟩] f := by
  induction fs generalizing s with
  | nil => exact absurd hf (Multiset.notMem_zero f)
  | cons frame fs ih =>
    rcases Multiset.mem_add.mp hf with hf | hf
    · exact acknowledgedIn_filed h hf (hall List.mem_cons_self)
    · exact ih (fun g hg => hall (List.mem_cons_of_mem _ hg))
        (h.shrinks (dispatch_shrinks src s frame)) hf

/-- **One call.** -/
theorem acknowledgedBy_filed {c : GtpConnection} (h : Filed sheets c.hot.lossDetector) {op : Op}
    (hf : f ∈ c.acknowledgedBy op) : Acknowledged sheets (c.openedIn op).toList f := by
  cases op with
  | handleIncoming src dg now ecn =>
    by_cases hopen : ∃ hd pt, c.Opens dg hd pt
    · obtain ⟨hd, pt, hopen⟩ := hopen
      have hframes := hopen.openedFrames
      rw [hopen.openedIn src now ecn]
      obtain ⟨-, n, hadm, -⟩ := hopen
      obtain ⟨amp, probe, rx, owd, emit, hauth⟩ := onAuthenticated_spec { c with
        cold.totalRxPackets := c.cold.totalRxPackets + 1
        cold.totalRxBytes := c.cold.totalRxBytes + dg.length } hd src dg.length now
      simp only [acknowledgedBy, GtpConnection.received, hadm, hframes] at hf
      refine gather_filed src _ (List.Subset.refl _) ?_ hf
      rw [hauth]
      exact h
    · have hnone : ∀ hd pt, ¬ c.Opens dg hd pt := fun hd pt h => hopen ⟨hd, pt, h⟩
      have hframes := openedFrames_of_not_opens hnone
      refine absurd hf ?_
      simp only [acknowledgedBy, GtpConnection.received, hframes]
      split <;> exact Multiset.notMem_zero f
  | _ => exact absurd hf (Multiset.notMem_zero f)

/-- **Every run**: what was acknowledged is in a sheet whose number an opened ACK names. -/
theorem acknowledged_filed (ops : List Op) {c : GtpConnection} (hnum : c.Numbered)
    (hbound : c.hot.nextPacketNumber.toNat + ops.length < 2 ^ 64)
    (h : Filed sheets c.hot.lossDetector) (hf : f ∈ sumOver acknowledgedBy c ops) :
    Acknowledged (sheets ++ c.sealedSheets ops) (c.openedSheets ops) f := by
  induction ops generalizing c sheets with
  | nil => exact absurd hf (Multiset.notMem_zero f)
  | cons op ops ih =>
    rw [List.length_cons] at hbound
    have hnext := c.step_nextPacketNumber_le op
    rw [openedSheets, sealedSheets]
    rcases Multiset.mem_add.mp (show f ∈ c.acknowledgedBy op + _ from hf) with hf | hf
    · exact (acknowledgedBy_filed h hf).mono (List.subset_append_left _ _)
        (List.subset_append_left _ _)
    · have hrest := ih (hnum.step (by omega) op) (by omega) (step_filed hnum h op) hf
      rw [List.append_assoc] at hrest
      exact hrest.mono (List.Subset.refl _) (List.subset_append_right _ _)

end Acknowledgement

/-! ## 4. What an ACK names -/

variable [CryptoSuite]

/-- A sheet of a run was sealed by one call of it. -/
theorem mem_sealedSheets {ops : List Op} {c : GtpConnection} {sheet : Sheet}
    (h : sheet ∈ c.sealedSheets ops) :
    ∃ before op after, ops = before ++ op :: after ∧ (c.run before).sealedIn op = some sheet := by
  induction ops generalizing c with
  | nil => cases h
  | cons op ops ih =>
    rcases List.mem_append.mp h with h | h
    · exact ⟨[], op, ops, rfl, Option.mem_toList.mp h⟩
    · obtain ⟨before, op', after, rfl, hsealed⟩ := ih h
      exact ⟨op :: before, op', after, rfl, hsealed⟩

theorem openedSheets_append (c : GtpConnection) (ops ops' : List Op) :
    c.openedSheets (ops ++ ops') = c.openedSheets ops ++ (c.run ops).openedSheets ops' := by
  induction ops generalizing c with
  | nil => rfl
  | cons op ops ih =>
    rw [List.cons_append, openedSheets, openedSheets, ih, List.append_assoc]
    rfl

omit [CryptoSuite] in
theorem peekAckFrame_of_appendAck {c : GtpConnection} {b : PacketBuilder} {now : MonotonicTime}
    {frame : Frame} (h : (c.appendAck b now).1 = some frame) :
    c.hot.ackTracker.peekAckFrame now = some frame := by
  unfold appendAck at h
  dsimp only at h
  split at h
  · split at h
    · rename_i hpeek
      split at h
      · exact Option.some.inj h ▸ hpeek
      · cases h
    · cases h
  · cases h

/-- An ACK that is sealed is what the tracker has to say. -/
theorem peekAckFrame_of_sealedIn {c : GtpConnection} {op : Op} {sheet : Sheet}
    (h : c.sealedIn op = some sheet) {l : PacketNumber} {d : UInt32} {r : AckRanges} {n : UInt8}
    {e0 e1 ce : UInt32} (hack : .ack l d r n e0 e1 ce ∈ sheet.read.frames) :
    ∃ now, c.hot.ackTracker.peekAckFrame now = some (.ack l d r n e0 e1 ce) := by
  obtain ⟨frame, hframe, hcanon⟩ := ack_of_received hack
  cases op with
  | produce now outBuf =>
    obtain ⟨b, len, hcar, hframes, -⟩ := sealedIn_produce h
    have hass := (c.prepare now).assemble_spec hcar now
    obtain ⟨ld, cc, s, pv, pac, cold, ev, hprep, -⟩ := c.prepare_spec now
    rw [hframes] at hframe
    rcases List.mem_append.mp hframe with hframe | hframe
    · rcases List.mem_append.mp hframe with hframe | hframe
      · rw [Option.mem_toList, hass.ack] at hframe
        have hpeek := peekAckFrame_of_appendAck hframe
        rw [AckTracker.peekAckFrame_canon hpeek] at hcanon
        rw [hprep, hcanon] at hpeek
        exact ⟨now, hpeek⟩
      · obtain ⟨ctrl, -, rfl⟩ := List.mem_map.mp hframe
        cases ctrl <;> cases hcanon
    · obtain ⟨x, -, rfl⟩ := List.mem_map.mp hframe
      unfold itemFrame at hcanon
      split at hcanon <;> cases hcanon
  | _ => cases h

/-- **An ACK names what its sender has opened.** -/
theorem Setup.ack_names_opened (s : Setup) (ops : List Op)
    (hnumbers : ∀ sheet ∈ s.start.openedSheets ops, sheet.packetNumber.toNat < u64Max)
    {opened : List Sheet} (hopened : opened ⊆ (s.start.sealedSheets ops).map Sheet.read) {pn : Nat}
    (hnames : Names opened pn) :
    ∃ sheet ∈ s.start.openedSheets ops, sheet.packetNumber.toNat = pn := by
  obtain ⟨read, hread, l, d, r, n, e0, e1, ce, hack, hpn⟩ := hnames
  obtain ⟨sheet, hsheet, rfl⟩ := List.mem_map.mp (hopened hread)
  obtain ⟨before, op, after, rfl, hsealed⟩ := mem_sealedSheets hsheet
  obtain ⟨now, hpeek⟩ := peekAckFrame_of_sealedIn hsealed hack
  have hsub : s.start.openedSheets before ⊆ s.start.openedSheets (before ++ op :: after) := by
    rw [openedSheets_append]
    exact List.subset_append_left _ _
  have hinv := s.ackTracker_inv before fun sheet hmem => hnumbers sheet (hsub hmem)
  have hall : ∀ p ∈ (s.start.openedSheets before).map Sheet.packetNumber, p.toNat < u64Max := by
    intro p hp
    obtain ⟨sheet, hmem, rfl⟩ := List.mem_map.mp hp
    exact hnumbers sheet (hsub hmem)
  have hreached : pn ∈ AckAgreement.parsedNumbers (s.start.run before).hot.ackTracker now := by
    rw [AckAgreement.parsedNumbers, hpeek]
    exact hpn
  obtain ⟨p, hp, rfl⟩ := AckAgreement.received_of_reached hinv
    ((AckAgreement.mem_parsedNumbers_iff hinv hall now pn).mp hreached)
  obtain ⟨sheet, hmem, rfl⟩ := List.mem_map.mp hp
  exact ⟨sheet, hsub hmem, rfl⟩

/-! ## 5. The sheets of the sender -/

/-- The sheets of a run are numbered upwards from the next number. -/
theorem sealedSheets_ascend (ops : List Op) {c : GtpConnection}
    (hbound : c.hot.nextPacketNumber.toNat + ops.length < 2 ^ 64) :
    (∀ sheet ∈ c.sealedSheets ops, c.hot.nextPacketNumber.toNat ≤ sheet.packetNumber.toNat ∧
      sheet.packetNumber.toNat < c.hot.nextPacketNumber.toNat + ops.length) ∧
      (c.sealedSheets ops).Pairwise fun a b => a.packetNumber.toNat < b.packetNumber.toNat := by
  induction ops generalizing c with
  | nil => exact ⟨fun sheet h => (by cases h), .nil⟩
  | cons op ops ih =>
    rw [List.length_cons] at hbound ⊢
    obtain ⟨hnext, -⟩ := c.step_packetNumber op
    have hsucc : (PacketNumber.next c.hot.nextPacketNumber).toNat =
        c.hot.nextPacketNumber.toNat + 1 := PacketNumber.toNat_next (by omega)
    rw [sealedSheets]
    cases hsealed : c.sealedIn op with
    | none =>
      have hle : c.hot.nextPacketNumber.toNat ≤ (c.step op).hot.nextPacketNumber.toNat ∧
          (c.step op).hot.nextPacketNumber.toNat ≤ c.hot.nextPacketNumber.toNat + 1 := by
        cases hout : c.datagramOf op <;> rw [hnext, hout] <;> dsimp only <;> omega
      obtain ⟨hrange, hpair⟩ := ih (c := c.step op) (by omega)
      refine ⟨fun sheet h => ?_, hpair⟩
      obtain ⟨hlow, hhigh⟩ := hrange sheet h
      omega
    | some head =>
      have hnumber := sealedIn_packetNumber hsealed
      obtain ⟨sent, hout⟩ := datagramOf_of_sealedIn hsealed
      rw [hout] at hnext
      dsimp only at hnext
      rw [← hnext] at hsucc
      obtain ⟨hrange, hpair⟩ := ih (c := c.step op) (by omega)
      refine ⟨fun sheet h => ?_, List.pairwise_cons.mpr ⟨fun sheet h => ?_, hpair⟩⟩
      · rcases List.mem_cons.mp h with rfl | h
        · rw [hnumber]
          omega
        · obtain ⟨hlow, hhigh⟩ := hrange sheet h
          omega
      · obtain ⟨hlow, hhigh⟩ := hrange sheet h
        rw [hnumber]
        omega

theorem sealedSheets_inj {ops : List Op} {c : GtpConnection}
    (hbound : c.hot.nextPacketNumber.toNat + ops.length < 2 ^ 64) {a b : Sheet}
    (ha : a ∈ c.sealedSheets ops) (hb : b ∈ c.sealedSheets ops)
    (hab : a.packetNumber.toNat = b.packetNumber.toNat) : a = b := by
  have hpair := (sealedSheets_ascend ops hbound).2
  have hinj := List.pairwise_map.mpr (hpair.imp fun hlt => Nat.ne_of_lt hlt)
  exact List.inj_on_of_nodup_map hinj ha hb hab

/-- **The reliable frames of a run** are pieces of its postings. -/
theorem sealedSheets_genuine (ops : List Op) {c : GtpConnection} {log : List Posting}
    (h : Accounted log c) (hlen : c.hot.nextMessageId.toNat + ops.length < 2 ^ 64) {sheet : Sheet}
    (hsheet : sheet ∈ c.sealedSheets ops) :
    ∀ f ∈ sheet.frames, Genuine (log ++ c.postings ops) f := by
  induction ops generalizing c log with
  | nil => cases hsheet
  | cons op ops ih =>
    rw [List.length_cons] at hlen
    rcases List.mem_append.mp hsheet with hsheet | hsheet
    · cases op with
      | produce now outBuf =>
        obtain ⟨b, len, hcar, hframes, -⟩ := sealedIn_produce (Option.mem_toList.mp hsheet)
        rw [hframes]
        intro f hf
        exact (genuine_frames ((c.prepare now).assemble_spec hcar now)
          ((c.prepare_resends now).traced h.traced).items f hf).mono (List.subset_append_left _ _)
      | _ => cases hsheet
    · obtain ⟨hstep, hid⟩ := h.step (by omega) op
      rw [postings, ← List.append_assoc]
      exact ih hstep (by omega) hsheet

/-! ## 6. Every session -/

/-- The fragment has come to the peer: a datagram that the peer opened holds it, with the piece that
was posted, and the peer reads it there unless a probe swallows it. -/
def ReachedPeer (log : List Posting) (sealed opened : List Sheet) (f : Fragment) : Prop :=
  ∃ sheet ∈ sealed, sheet.read ∈ opened ∧ ∃ n g q piece,
    Posted log f.1 f.2 n g q piece ∧ .reliableData f.1 f.2 n g q piece ∈ sheet.frames ∧
    (.reliableData f.1 f.2 n g q piece ∈ sheet.read.frames ∨
      ∃ probe pad, .mtuProbe probe pad ∈ sheet.frames)

/-- **A reliable fragment is given up only to a peer that opened it.**  For both ends of a session,
whatever runs they make, over a network that brings each of them datagrams that the other has handed
out, in any order and any number of times: every fragment that an end has accepted waits there, in a
queue or for its acknowledgement, or lies in a datagram that the peer has opened, or was dropped by
the end itself, because it expired or was refused when it came back.  What the peer does with a
fragment that it has opened is not said here: it may discard it. -/
theorem reliable_custody (hround : CryptoSuite.RoundTrips) (s : Net.Session)
    (hsep : ∀ x, Net.PhasesSeparate (s.base x) s.cid) (ops : Bool → List Op)
    (hlen : ∀ x, (ops x).length < 2 ^ 64 - 1)
    (hwire : ∀ x src dg now ecn, .handleIncoming src dg now ecn ∈ ops (!x) →
      dg ∈ (s.setup x).start.handedOut (ops x)) (x : Bool) :
    ∀ f ∈ sumOver acceptedBy (s.setup x).start (ops x),
      f ∈ ((s.setup x).start.run (ops x)).held ∨
      ReachedPeer ((s.setup x).start.postings (ops x)) ((s.setup x).start.sealedSheets (ops x))
        ((s.setup (!x)).start.openedSheets (ops (!x))) f ∨
      f ∈ sumOver staleBy (s.setup x).start (ops x) ∨
      f ∈ sumOver refusedBy (s.setup x).start (ops x) := by
  have hlen' := hlen x
  have hpeer := hlen (!x)
  have hnumber : (s.setup x).start.hot.nextPacketNumber.toNat = 1 := rfl
  have hid : (s.setup x).start.hot.nextMessageId.toNat = 1 := rfl
  have hforth := (opened_subperm_sealed hround s x (hsep x) (ops x) (ops (!x)) (by omega) (by omega)
    (hwire x)).subset
  have hback := opened_subperm_sealed hround s (!x) (hsep (!x)) (ops (!x)) (ops x) (by omega)
    (by omega) (by simpa using hwire (!x))
  rw [Bool.not_not] at hback
  have hascend := sealedSheets_ascend (ops x) (c := (s.setup x).start) (by omega)
  intro f hf
  have hbooks := (s.setup x).start_books.run (ops x) (by omega)
  have hbalance := hbooks.balance
  rw [zero_add, zero_add] at hbalance
  rw [hbalance] at hf
  rcases Multiset.mem_add.mp hf with hf | hf
  · exact Or.inl hf
  · rcases Multiset.mem_add.mp hf with hf | hf
    · rcases Multiset.mem_add.mp hf with hf | hf
      · -- acknowledged: the ACK names a number that the peer has opened
        have hfiled : Filed [] (s.setup x).start.hot.lossDetector := by
          intro pn record hget
          exact absurd hget (by simp [Setup.start, newWithHotConfig, ofHot,
            ConnectionHot.buildWithConfig, LossDetector.default])
        obtain ⟨sheet, hsheet, ⟨r, rfl, hframe⟩, hnames⟩ := acknowledged_filed (ops x)
          (s.setup x).start_pathInv.numbered (by omega) hfiled hf
        rw [List.nil_append] at hsheet
        have hnumbers : ∀ read ∈ (s.setup (!x)).start.openedSheets (ops (!x)),
            read.packetNumber.toNat < u64Max := by
          intro read hread
          obtain ⟨sent, hsent, rfl⟩ := List.mem_map.mp (hforth hread)
          have hlt := (hascend.1 sent hsent).2
          change sent.packetNumber.toNat < u64Max
          rw [u64Max]
          omega
        obtain ⟨read, hread, heq⟩ := (s.setup (!x)).ack_names_opened (ops (!x)) hnumbers
          hback.subset hnames
        obtain ⟨sent, hsent, rfl⟩ := List.mem_map.mp (hforth hread)
        obtain rfl := sealedSheets_inj (by omega) hsent hsheet heq
        have hgenuine := sealedSheets_genuine (ops x) (s.setup x).start_accounted (by omega) hsent _
          hframe
        rw [List.nil_append] at hgenuine
        exact Or.inr (Or.inl ⟨sent, hsent, hread, _, _, _, _, hgenuine _ _ _ _ _ _ rfl, hframe,
          mem_received_or_probe hframe⟩)
      · exact Or.inr (Or.inr (Or.inl hf))
    · exact Or.inr (Or.inr (Or.inr hf))

end GtpConnection

/-! ## 7. On a concrete session -/

namespace GtpConnection

attribute [local instance] keyTagSuite

/-- The calls of the peer, `false`: both datagrams, the second one first, and the ACK that is due
then.  The calls of the sender: two messages, and the ACK. -/
def bothEnds : Bool → List Op
  | false => swapped ++ [.produce 40 (List.replicate 200 0)]
  | true => twoMoves ++ ((Net.sampleSession.setup false).start.handedOut
      (swapped ++ [.produce 40 (List.replicate 200 0)])).map (.handleIncoming ⟨2, 4433⟩ · 50 0)

theorem bothEnds_wire (x : Bool) (src : SocketAddr) (dg : List UInt8) (now : MonotonicTime)
    (ecn : UInt8) (hmem : .handleIncoming src dg now ecn ∈ bothEnds (!x)) :
    dg ∈ (Net.sampleSession.setup x).start.handedOut (bothEnds x) := by
  cases x with
  | true =>
    rw [bothEnds, handedOut_append]
    rcases List.mem_append.mp hmem with hmem | hmem
    · obtain ⟨dg', hdg', heq⟩ := List.mem_map.mp hmem
      obtain ⟨rfl, rfl, rfl, rfl⟩ := Op.handleIncoming.inj heq
      exact List.mem_append_left _ (List.mem_reverse.mp hdg')
    · cases List.mem_singleton.mp hmem
  | false =>
    rcases List.mem_append.mp hmem with hmem | hmem
    · simp [twoMoves] at hmem
    · obtain ⟨dg', hdg', heq⟩ := List.mem_map.mp hmem
      obtain ⟨rfl, rfl, rfl, rfl⟩ := Op.handleIncoming.inj heq
      exact hdg'

/-- The theorem at a session where all was acknowledged: nothing waits, and nothing was dropped. -/
theorem reliable_custody_acknowledged :
    (sumOver acceptedBy (Net.sampleSession.setup true).start (bothEnds true)).card = 2 ∧
      ∀ f ∈ sumOver acceptedBy (Net.sampleSession.setup true).start (bothEnds true),
        ReachedPeer ((Net.sampleSession.setup true).start.postings (bothEnds true))
          ((Net.sampleSession.setup true).start.sealedSheets (bothEnds true))
          ((Net.sampleSession.setup false).start.openedSheets (bothEnds false)) f := by
  have hlen : ∀ x, (bothEnds x).length < 2 ^ 64 - 1 := by
    intro x
    have hshort : (bothEnds x).length ≤ 5 := by
      cases x <;> decide +kernel
    omega
  have hheld : ((Net.sampleSession.setup true).start.run (bothEnds true)).held.card = 0 := by
    decide +kernel
  have hdropped :
      (sumOver staleBy (Net.sampleSession.setup true).start (bothEnds true)).card = 0 ∧
        (sumOver refusedBy (Net.sampleSession.setup true).start (bothEnds true)).card = 0 := by
    decide +kernel
  -- the other three places are empty
  have hrest : ∀ {accepted held stale refused : Multiset Fragment} {P : Fragment → Prop},
      (∀ f ∈ accepted, f ∈ held ∨ P f ∨ f ∈ stale ∨ f ∈ refused) → held.card = 0 →
      stale.card = 0 ∧ refused.card = 0 → ∀ f ∈ accepted, P f := by
    intro accepted held stale refused P hall hheld hdropped f hf
    rw [Multiset.card_eq_zero.mp hheld, Multiset.card_eq_zero.mp hdropped.1,
      Multiset.card_eq_zero.mp hdropped.2] at hall
    simpa using hall f hf
  exact ⟨by decide +kernel, hrest (reliable_custody keyTagSuite_roundTrips Net.sampleSession
    Net.sampleSession_separates bothEnds hlen bothEnds_wire true) hheld hdropped⟩

end GtpConnection

end Gtp
