import VirtualServiceGateway.Dpdk.PacketLength

/-!
# Packet metadata as a map

Metadata lives in the user data of the packets: attaching stores it there, processing a batch stores
new metadata for every packet of the batch, and extracting reads it back. Together they are a map
from packets to metadata, where the last one to store for a packet is what is read. In particular
processing a packet replaces all that was attached to it before.
-/

namespace VirtualServiceGateway.Dpdk

variable {Mbuf Storage : Type*}

/-- Attach metadata to a packet, unless one of the pointers is null. It is not defined for a packet
without user data. -/
def attachMetadata [DecidableEq Storage] (mbufs : Mbuf → RteMbuf Storage)
    (contents : Storage → PacketMetadata) (pkt : Option Mbuf)
    (metadata : Option PacketMetadata) : Option (Storage → PacketMetadata) :=
  match pkt, metadata with
  | some pkt, some metadata =>
      (mbufs pkt).userdata.map fun stored ↦ Function.update contents stored metadata
  | _, _ => some contents

/-- A call that stores metadata, with the packets as they are at the call and the clock readings. -/
inductive MetadataCall (Mbuf Storage : Type*) where
  | attach (mbufs : Mbuf → RteMbuf Storage) (pkt : Option Mbuf) (metadata : Option PacketMetadata)
  | process (mbufs : Mbuf → RteMbuf Storage) (rdtsc : ℕ → UInt64) (pkts : ℕ → Option Mbuf)
      (count : UInt16)

namespace MetadataCall

/-- The stored metadata after a call, if all its accesses are defined. -/
def perform [DecidableEq Storage] (contents : Storage → PacketMetadata) :
    MetadataCall Mbuf Storage → Option (Storage → PacketMetadata)
  | attach mbufs pkt metadata => attachMetadata mbufs contents pkt metadata
  | process mbufs rdtsc pkts count =>
      match processBatch mbufs rdtsc pkts count [] with
      | some (true, trace) => some (metadataAfter contents trace)
      | _ => none

/-- The stored metadata after the calls, oldest first. -/
def after [DecidableEq Storage] (contents : Storage → PacketMetadata)
    (calls : List (MetadataCall Mbuf Storage)) : Option (Storage → PacketMetadata) :=
  calls.foldlM perform contents

/-! ## The map -/

/-- What the call stores, for which packets. -/
def writes : MetadataCall Mbuf Storage → List (Mbuf × PacketMetadata)
  | attach _ (some pkt) (some metadata) => [(pkt, metadata)]
  | attach _ _ _ => []
  | process mbufs rdtsc pkts count =>
      (List.range count.toNat).filterMap fun index ↦
        (pkts index).map fun pkt ↦ (pkt, (mbufs pkt).metadata (rdtsc index))

/-- No entry of the batch is null. -/
def Complete : MetadataCall Mbuf Storage → Prop
  | attach .. => True
  | process _ _ pkts count => ∀ index < count.toNat, pkts index ≠ none

/-- The user data of every packet is where its home is. -/
def HousedAt (home : Mbuf → Storage) : MetadataCall Mbuf Storage → Prop
  | attach mbufs _ _ => ∀ pkt, (mbufs pkt).userdata = some (home pkt)
  | process mbufs _ _ _ => ∀ pkt, (mbufs pkt).userdata = some (home pkt)

/-! ## One call -/

/-- What an access stores for a packet. -/
def writeOf : BatchAccess Mbuf Storage → Option (Mbuf × PacketMetadata)
  | .construct pkt _ metadata => some (pkt, metadata)
  | _ => none

/-- The script of a batch stores what the call writes. -/
theorem filterMap_writeOf_batchScript (mbufs : Mbuf → RteMbuf Storage) (rdtsc : ℕ → UInt64)
    (pkts : ℕ → Option Mbuf) (count : UInt16) :
    (batchScript mbufs rdtsc pkts count).filterMap writeOf =
      writes (.process mbufs rdtsc pkts count) := by
  have hprefetch (index : ℕ) : (prefetchScript pkts index :
      List (BatchAccess Mbuf Storage)).filterMap writeOf = [] := rfl
  have hsingle (timestamp : UInt64) (pkt : Option Mbuf) :
      (singleScript mbufs timestamp pkt).filterMap writeOf =
        (pkt.map fun pkt ↦ (pkt, (mbufs pkt).metadata timestamp)).toList := by
    cases pkt <;> rfl
  have hentry (index : ℕ) : (entryScript mbufs rdtsc pkts count index).filterMap writeOf =
      ((pkts index).map fun pkt ↦ (pkt, (mbufs pkt).metadata (rdtsc index))).toList := by
    unfold entryScript
    rw [List.filterMap_cons_none rfl, List.filterMap_append, hsingle]
    split
    case isTrue => rw [hprefetch, List.append_nil]
    case isFalse => rw [List.filterMap_nil, List.append_nil]
  have hwrites : writes (.process mbufs rdtsc pkts count) =
      (List.range count.toNat).filterMap fun index ↦
        (pkts index).map fun pkt ↦ (pkt, (mbufs pkt).metadata (rdtsc index)) := rfl
  rw [hwrites, batchScript, List.filterMap_append, List.filterMap_flatMap, List.filterMap_flatMap,
    List.flatMap_eq_nil_iff.mpr fun index _ ↦ hprefetch index, List.nil_append,
    List.filterMap_eq_flatMap_toList]
  exact congrArg (List.flatMap · _) (funext hentry)

variable {home : Mbuf → Storage} [DecidableEq Storage]

/-- A batch is processed to its end exactly when it is complete. -/
theorem perform_process (mbufs : Mbuf → RteMbuf Storage) (rdtsc : ℕ → UInt64)
    (pkts : ℕ → Option Mbuf) (count : UInt16) (contents next : Storage → PacketMetadata) :
    (process mbufs rdtsc pkts count).perform contents = some next ↔
      (∀ index < count.toNat, ∃ pkt ∈ pkts index, (mbufs pkt).userdata ≠ none) ∧
        next = metadataAfter contents (batchScript mbufs rdtsc pkts count) := by
  rw [← forall_defined_iff mbufs rdtsc pkts count, perform]
  constructor
  · intro h
    split at h
    case h_1 trace hbatch =>
      obtain ⟨hdefined, rfl⟩ := (processBatch_defined_iff mbufs rdtsc pkts count trace).mp hbatch
      exact ⟨hdefined, (Option.some.inj h).symm⟩
    case h_2 => cases h
  · rintro ⟨hdefined, rfl⟩
    rw [(processBatch_defined_iff mbufs rdtsc pkts count _).mpr ⟨hdefined, rfl⟩]

/-- A call is defined exactly when it is complete. -/
theorem complete_iff {call : MetadataCall Mbuf Storage} (hhoused : call.HousedAt home)
    (contents : Storage → PacketMetadata) :
    call.Complete ↔ ∃ next, call.perform contents = some next := by
  cases call with
  | attach mbufs pkt metadata =>
    refine iff_of_true trivial ?_
    rw [perform]
    cases pkt with
    | none => exact ⟨contents, rfl⟩
    | some pkt =>
      cases metadata with
      | none => exact ⟨contents, rfl⟩
      | some metadata =>
        rw [attachMetadata, hhoused pkt]
        exact ⟨_, rfl⟩
  | process mbufs rdtsc pkts count =>
    have hentry (index : ℕ) :
        (∃ pkt ∈ pkts index, (mbufs pkt).userdata ≠ none) ↔ pkts index ≠ none := by
      rw [Option.ne_none_iff_exists']
      refine exists_congr fun pkt ↦ ?_
      rw [hhoused pkt]
      simp
    simp only [perform_process, hentry, exists_and_left, exists_eq, and_true]
    rfl

/-- A run is defined exactly when its batches are complete. -/
theorem after_defined_iff {calls : List (MetadataCall Mbuf Storage)}
    (hhoused : ∀ call ∈ calls, call.HousedAt home) (contents : Storage → PacketMetadata) :
    (∃ final, after contents calls = some final) ↔ ∀ call ∈ calls, call.Complete := by
  induction calls generalizing contents with
  | nil => exact iff_of_true ⟨contents, rfl⟩ (by simp)
  | cons call calls ih =>
    rw [List.forall_mem_cons] at hhoused ⊢
    rw [complete_iff hhoused.1 contents, after, List.foldlM_cons]
    cases hnext : call.perform contents with
    | none => simp
    | some next =>
      have hrest := ih hhoused.2 next
      unfold after at hrest
      rw [Option.bind_eq_bind, Option.bind_some, hrest]
      simp

variable [DecidableEq Mbuf]

/-- Seen from the packets, storing at the homes is storing for the packets. -/
theorem metadataAfter_home (hapart : Function.Injective home) {mbufs : Mbuf → RteMbuf Storage}
    (hhoused : ∀ pkt, (mbufs pkt).userdata = some (home pkt))
    {trace : List (BatchAccess Mbuf Storage)} (hfaithful : ∀ event ∈ trace, event.Faithful mbufs)
    (contents : Storage → PacketMetadata) :
    metadataAfter contents trace ∘ home =
      (trace.filterMap writeOf).foldl (fun values entry ↦ Function.update values entry.1 entry.2)
        (contents ∘ home) := by
  induction trace generalizing contents with
  | nil => rfl
  | cons event trace ih =>
    rw [List.forall_mem_cons] at hfaithful
    have hcons : metadataAfter contents (event :: trace) =
        metadataAfter (storeAccess contents event) trace := rfl
    rw [hcons, ih hfaithful.2]
    cases event with
    | construct pkt storage metadata =>
      obtain rfl : storage = some (home pkt) := hfaithful.1.1.trans (hhoused pkt)
      have hstored : storeAccess contents (.construct pkt (some (home pkt)) metadata) ∘ home =
          Function.update (contents ∘ home) pkt metadata :=
        Function.update_comp_eq_of_injective contents hapart pkt metadata
      have hwrite : writeOf (.construct pkt (some (home pkt)) metadata) =
          some (pkt, metadata) := rfl
      rw [hstored, List.filterMap_cons_some hwrite, List.foldl_cons]
    | _ => rw [List.filterMap_cons_none rfl]; rfl

/-- A defined call stores what it writes. -/
theorem perform_home (hapart : Function.Injective home) {call : MetadataCall Mbuf Storage}
    (hhoused : call.HousedAt home) {contents next : Storage → PacketMetadata}
    (hnext : call.perform contents = some next) :
    next ∘ home = call.writes.foldl
      (fun values entry ↦ Function.update values entry.1 entry.2) (contents ∘ home) := by
  cases call with
  | attach mbufs pkt metadata =>
    rw [perform] at hnext
    cases pkt with
    | none =>
      obtain rfl := Option.some.inj hnext
      rfl
    | some pkt =>
      cases metadata with
      | none =>
        obtain rfl := Option.some.inj hnext
        rfl
      | some metadata =>
        rw [attachMetadata, hhoused pkt] at hnext
        obtain rfl := Option.some.inj hnext
        exact Function.update_comp_eq_of_injective contents hapart pkt metadata
  | process mbufs rdtsc pkts count =>
    obtain ⟨-, rfl⟩ := (perform_process mbufs rdtsc pkts count contents next).mp hnext
    rw [metadataAfter_home hapart hhoused (faithful_batchScript mbufs rdtsc pkts count),
      filterMap_writeOf_batchScript]

/-! ## Runs -/

theorem after_home (hapart : Function.Injective home) {calls : List (MetadataCall Mbuf Storage)}
    (hhoused : ∀ call ∈ calls, call.HousedAt home) {contents final : Storage → PacketMetadata}
    (hfinal : after contents calls = some final) :
    final ∘ home = (calls.flatMap writes).foldl
      (fun values entry ↦ Function.update values entry.1 entry.2) (contents ∘ home) := by
  induction calls generalizing contents with
  | nil =>
    obtain rfl := Option.some.inj hfinal
    rfl
  | cons call calls ih =>
    rw [List.forall_mem_cons] at hhoused
    rw [after, List.foldlM_cons] at hfinal
    obtain ⟨next, hnext, hrest⟩ := Option.bind_eq_some_iff.mp hfinal
    rw [List.flatMap_cons, List.foldl_append, ← perform_home hapart hhoused.1 hnext]
    exact ih hhoused.2 hrest

/-- What was stored for the packet last. -/
def lastWritten (calls : List (MetadataCall Mbuf Storage)) (pkt : Mbuf) : Option PacketMetadata :=
  (((calls.flatMap writes).filter fun write ↦ write.1 = pkt).getLast?).map Prod.snd

/-- Entries overwritten one after the other hold what was written to them last. -/
theorem foldl_update_apply {Value : Type*} (values : Mbuf → Value) (entries : List (Mbuf × Value))
    (key : Mbuf) :
    entries.foldl (fun values entry ↦ Function.update values entry.1 entry.2) values key =
      ((((entries.filter fun entry ↦ entry.1 = key).getLast?).map Prod.snd).getD (values key)) := by
  induction entries using List.reverseRecOn with
  | nil => rfl
  | append_singleton entries entry ih =>
    rw [List.foldl_concat, List.filter_append]
    by_cases hkey : entry.1 = key
    · rw [← hkey, Function.update_self, List.filter_cons_of_pos (by simp), List.filter_nil,
        List.getLast?_concat]
      rfl
    · rw [Function.update_of_ne (Ne.symm hkey), ih, List.filter_cons_of_neg (by simpa using hkey),
        List.filter_nil, List.append_nil]

/-- **Metadata is a map.** Where every packet has user data of its own, a run of attachments and
batches is defined exactly when no batch has a null entry, and then an extraction from any packet
finds what was stored for that packet last, or what was there before the run. -/
theorem extract_lastWritten (hapart : Function.Injective home)
    {calls : List (MetadataCall Mbuf Storage)} (hhoused : ∀ call ∈ calls, call.HousedAt home)
    {mbufs : Mbuf → RteMbuf Storage} (hmbufs : ∀ pkt, (mbufs pkt).userdata = some (home pkt))
    (contents : Storage → PacketMetadata) :
    ((∃ final, after contents calls = some final) ↔ ∀ call ∈ calls, call.Complete) ∧
      ∀ final, after contents calls = some final → ∀ pkt prior,
        extractMetadata mbufs final (some pkt) (some prior) =
          some ((lastWritten calls pkt).getD (contents (home pkt))) := by
  refine ⟨after_defined_iff hhoused contents, fun final hfinal pkt prior ↦ ?_⟩
  have hmap := congrFun (after_home hapart hhoused hfinal) pkt
  rw [foldl_update_apply] at hmap
  rw [extractMetadata, hmbufs]
  exact congrArg some hmap

/-- Attached metadata is replaced when the packet is processed. The batch holds packet 7 twice. -/
theorem attached_then_processed :
    let mbufs : ℕ → RteMbuf ℕ := fun pkt ↦ ⟨100, 100, some pkt⟩
    let calls : List (MetadataCall ℕ ℕ) :=
      [.attach mbufs (some 7) (some { PacketMetadata.zero with flowId := 5 }),
        .process mbufs (fun index ↦ UInt64.ofNat index) ([7, 8, 7][·]?) 3,
        .attach mbufs (some 8) (some { PacketMetadata.zero with serviceId := 2 })]
    ((∃ final, after (fun _ ↦ .zero) calls = some final) ↔ ∀ call ∈ calls, call.Complete) ∧
      ∀ final, after (fun _ ↦ .zero) calls = some final → ∀ pkt prior,
        extractMetadata mbufs final (some pkt) (some prior) =
          some ((lastWritten calls pkt).getD .zero) := by
  intro mbufs calls
  have hhoused : ∀ call ∈ calls, call.HousedAt id := by
    simp only [calls, List.forall_mem_cons]
    exact ⟨fun _ ↦ rfl, fun _ ↦ rfl, fun _ ↦ rfl, by simp⟩
  exact extract_lastWritten Function.injective_id hhoused (fun _ ↦ rfl) _

end MetadataCall

end VirtualServiceGateway.Dpdk
