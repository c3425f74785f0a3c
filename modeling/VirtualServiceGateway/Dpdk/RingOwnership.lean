import VirtualServiceGateway.Dpdk.RingQueue

/-!
# Ownership of the mbufs in a ring queue

While calls on the same side of the ring do not overlap, the queue is a bounded queue: the accepted
mbufs are the delivered ones followed by those in the ring, in order. Two overlapping calls on one
side start from the same head and write or read the same slots, whatever flags the ring was created
with.
-/

namespace VirtualServiceGateway.Dpdk

open BoundedRing Interleaving

variable {Mbuf : Type*}

/-! ## What the calls report -/

/-- The items that a call offers to the ring. -/
def RingCall.offered : RingCall Mbuf → List Mbuf
  | .enqueue obj => [obj]
  | .enqueueBurst objs => objs
  | _ => []

/-- The number of items that a call asks for. -/
def RingCall.wanted : RingCall Mbuf → ℕ
  | .dequeue => 1
  | .dequeueBurst maxCount => maxCount.toNat
  | _ => 0

/-- An enqueue reports the items it has added as accepted. -/
theorem reports_enqueued {call : RingCall Mbuf} {items : List Mbuf}
    (hitems : items <+: call.offered) :
    (call.finished items).accepted = items ∧ (call.finished items).delivered = [] := by
  cases call with
  | enqueue obj =>
    rcases List.prefix_cons_iff.mp hitems with rfl | ⟨rest, rfl, hrest⟩
    · exact ⟨rfl, rfl⟩
    · rw [List.prefix_nil.mp hrest]
      exact ⟨rfl, rfl⟩
  | enqueueBurst objs => exact ⟨(List.prefix_iff_eq_take.mp hitems).symm, rfl⟩
  | _ =>
    rw [List.prefix_nil.mp hitems]
    exact ⟨rfl, rfl⟩

/-- A dequeue delivers the items it has removed. -/
theorem reports_dequeued {call : RingCall Mbuf} {items : List Mbuf}
    (hitems : items.length ≤ call.wanted) :
    (call.finished items).accepted = [] ∧ (call.finished items).delivered = items := by
  cases call with
  | dequeue =>
    cases items with
    | nil => exact ⟨rfl, rfl⟩
    | cons item rest =>
      have hrest : rest.length ≤ 0 := Nat.le_of_succ_le_succ hitems
      rw [List.length_eq_zero_iff.mp (Nat.le_zero.mp hrest)]
      exact ⟨rfl, rfl⟩
  | dequeueBurst maxCount => exact ⟨rfl, rfl⟩
  | enqueue obj =>
    rw [List.length_eq_zero_iff.mp (Nat.le_zero.mp hitems)]
    exact ⟨rfl, rfl⟩
  | enqueueBurst objs =>
    rw [List.length_eq_zero_iff.mp (Nat.le_zero.mp hitems)]
    exact ⟨rfl, rfl⟩

@[simp]
theorem accepted_report (shared : SharedQueue Mbuf) (result : RingReport Mbuf) :
    (shared.report result).accepted = shared.accepted ++ result.accepted := by
  simp [SharedQueue.accepted, SharedQueue.report]

@[simp]
theorem delivered_report (shared : SharedQueue Mbuf) (result : RingReport Mbuf) :
    (shared.report result).delivered = shared.delivered ++ result.delivered := by
  simp [SharedQueue.delivered, SharedQueue.report]

/-! ## One call on each side -/

/-- Nobody works on the side: its head and its tail agree. -/
def Settled (ring : SlotRing Mbuf) : RingSide → Prop
  | .producer => ring.prodHead = ring.prodTail
  | .consumer => ring.consHead = ring.consTail

/-- The operation of the thread fits the ring and its call. -/
def RingUser.Fits (ring : SlotRing Mbuf) (user : RingUser Mbuf) : Prop :=
  match user.stage with
  | .idle => True
  | .enqueuing stage => stage.Fits ring ∧ ∀ call ∈ user.calls.head?, stage.items <+: call.offered
  | .dequeuing stage => stage.Fits ring ∧ ∀ call ∈ user.calls.head?, stage.count ≤ call.wanted

/-- At most one operation on each side of the ring, and each of them fits. -/
structure Serial (ring : SlotRing Mbuf) (users : List (RingUser Mbuf)) : Prop where
  fits : ∀ user ∈ users, user.Fits ring
  alone : ∀ (place other : ℕ) (user rest : RingUser Mbuf), users[place]? = some user →
    users[other]? = some rest → place ≠ other → user.stage.side ≠ none →
      user.stage.side ≠ rest.stage.side
  settled : ∀ side, (∀ user ∈ users, user.stage.side ≠ some side) → Settled ring side
  room : ring.used ≤ ring.capacity

/-- A step of one thread keeps the operations apart: it works on the side it was working on, on none
or on one that nobody works on, it leaves a side settled, and it disturbs no other side. -/
theorem Serial.set {ring after : SlotRing Mbuf} {users : List (RingUser Mbuf)} {place : ℕ}
    {user moved : RingUser Mbuf} (hserial : Serial ring users) (huser : users[place]? = some user)
    (hside : moved.stage.side = none ∨ moved.stage.side = user.stage.side ∨
      ∀ other ∈ users, other.stage.side ≠ moved.stage.side)
    (hmoved : moved.Fits after)
    (hothers : ∀ other ∈ users, (user.stage.side ≠ none → other.stage.side ≠ user.stage.side) →
      other.Fits ring → other.Fits after)
    (hsettled : ∀ side, moved.stage.side ≠ some side →
      (user.stage.side ≠ some side → Settled ring side) → Settled after side)
    (hroom : after.used ≤ after.capacity) : Serial after (users.set place moved) where
  fits := by
    intro other hother
    obtain ⟨index, hindex⟩ := List.getElem?_of_mem hother
    rcases getElem?_set_eq_some hindex with ⟨rfl, -⟩ | ⟨hold, hne⟩
    · exact hmoved
    · have hmem := List.mem_of_getElem? hold
      exact hothers other hmem
        (fun hbusy ↦ (hserial.alone place index user other huser hold hne.symm hbusy).symm)
        (hserial.fits other hmem)
  alone := by
    intro first second one two hone htwo hne hbusy
    rcases getElem?_set_eq_some hone with ⟨rfl, rfl⟩ | ⟨hfirst, -⟩
    · rcases getElem?_set_eq_some htwo with ⟨-, rfl⟩ | ⟨hsecond, -⟩
      · exact absurd rfl hne
      · rcases hside with hnone | hsame | hfree
        · exact absurd hnone hbusy
        · rw [hsame] at hbusy ⊢
          exact hserial.alone _ _ _ _ huser hsecond hne hbusy
        · exact (hfree two (List.mem_of_getElem? hsecond)).symm
    · rcases getElem?_set_eq_some htwo with ⟨rfl, rfl⟩ | ⟨hsecond, -⟩
      · rcases hside with hnone | hsame | hfree
        · rwa [hnone]
        · rw [hsame]
          exact hserial.alone _ _ _ _ hfirst huser hne hbusy
        · exact hfree one (List.mem_of_getElem? hfirst)
      · exact hserial.alone _ _ _ _ hfirst hsecond hne hbusy
  settled := by
    intro side hnone
    have hplace := (List.getElem?_eq_some_iff.mp huser).1
    refine hsettled side (hnone moved (List.mem_set hplace _)) fun hold ↦ hserial.settled side ?_
    intro other hother
    obtain ⟨index, hindex⟩ := List.getElem?_of_mem hother
    by_cases hsame : index = place
    · subst hsame
      rw [huser, Option.some.injEq] at hindex
      rwa [← hindex]
    · apply hnone other
      rw [← List.getElem?_set_ne (Ne.symm hsame)] at hindex
      exact List.mem_of_getElem? hindex
  room := hroom

/-- A step on one side leaves the operations on the other side as they were. -/
structure KeepsOther (side : RingSide) (ring after : SlotRing Mbuf) : Prop where
  fits : ∀ user : RingUser Mbuf, user.stage.side ≠ some side → user.Fits ring → user.Fits after
  settled : ∀ other, other ≠ side → Settled ring other → Settled after other
  room : after.used ≤ after.capacity

theorem keepsOther_of_produced {ring after : SlotRing Mbuf} {items : List Mbuf}
    (hproduced : Produced ring after items) : KeepsOther .producer ring after where
  fits := by
    rintro ⟨calls, stage⟩ hside hfits
    cases stage with
    | idle => trivial
    | enqueuing stage => exact absurd rfl hside
    | dequeuing stage => exact ⟨hfits.1.produced hproduced, hfits.2⟩
  settled := by
    intro other hother hsettled
    cases other with
    | producer => exact absurd rfl hother
    | consumer => exact (hproduced.consHead.trans hsettled).trans hproduced.consTail.symm
  room := hproduced.room

theorem keepsOther_of_consumed {ring after : SlotRing Mbuf} {items : List Mbuf}
    (hconsumed : Consumed ring after items) (hroom : ring.used ≤ ring.capacity) :
    KeepsOther .consumer ring after where
  fits := by
    rintro ⟨calls, stage⟩ hside hfits
    cases stage with
    | idle => trivial
    | enqueuing stage => exact ⟨hfits.1.consumed hconsumed, hfits.2⟩
    | dequeuing stage => exact absurd rfl hside
  settled := by
    intro other hother hsettled
    cases other with
    | producer => exact (hconsumed.prodHead.trans hsettled).trans hconsumed.prodTail.symm
    | consumer => exact absurd rfl hother
  room := by
    rw [hconsumed.capacity]
    exact hconsumed.used_le.trans hroom

/-- The thread goes on with its operation. -/
theorem Serial.running {side : RingSide} {ring after : SlotRing Mbuf}
    {users : List (RingUser Mbuf)} {place : ℕ} {user moved : RingUser Mbuf}
    (hserial : Serial ring users) (huser : users[place]? = some user)
    (hside : user.stage.side = some side) (hsame : moved.stage.side = some side)
    (hkeeps : KeepsOther side ring after) (hmoved : moved.Fits after) :
    Serial after (users.set place moved) := by
  apply hserial.set huser (Or.inr (Or.inl (hsame.trans hside.symm))) hmoved
  · intro other _ hdiffers
    rw [hside] at hdiffers
    exact hkeeps.fits other (hdiffers (Option.some_ne_none _))
  · intro other hother hold
    rw [hsame] at hother
    rw [hside] at hold
    have hne : other ≠ side := fun h ↦ hother (congrArg some h.symm)
    exact hkeeps.settled other hne (hold hother)
  · exact hkeeps.room

/-- The thread ends its operation and leaves its side settled. -/
theorem Serial.finished {side : RingSide} {ring after : SlotRing Mbuf}
    {users : List (RingUser Mbuf)} {place : ℕ} {user : RingUser Mbuf}
    (hserial : Serial ring users) (huser : users[place]? = some user)
    (hside : user.stage.side = some side) (hkeeps : KeepsOther side ring after)
    (hsettled : Settled after side) (calls : List (RingCall Mbuf)) :
    Serial after (users.set place ⟨calls, .idle⟩) := by
  refine hserial.set huser (Or.inl rfl) trivial ?_ ?_ hkeeps.room
  · intro other _ hdiffers
    rw [hside] at hdiffers
    exact hkeeps.fits other (hdiffers (Option.some_ne_none _))
  · intro other _ hold
    rw [hside] at hold
    by_cases hsame : other = side
    · rwa [hsame]
    · exact hkeeps.settled other hsame (hold fun h ↦ hsame (Option.some.inj h).symm)

/-- The thread begins a call while nobody works on the same side of the ring. -/
theorem Serial.begin {ring : SlotRing Mbuf} {users : List (RingUser Mbuf)} {place : ℕ}
    {call : RingCall Mbuf} {rest : List (RingCall Mbuf)} (hserial : Serial ring users)
    (huser : users[place]? = some ⟨call :: rest, .idle⟩)
    (hfree : ∀ other ∈ users, other.stage.side ≠ some call.side) :
    Serial ring (users.set place ⟨call :: rest, call.begin ring⟩) := by
  have hside : (call.begin ring).side = some call.side := by cases call <;> rfl
  have hfits : RingUser.Fits ring ⟨call :: rest, call.begin ring⟩ := by
    have hsettled := hserial.settled call.side hfree
    cases call with
    | enqueue obj => exact ⟨⟨rfl, hsettled.symm⟩, by rintro _ ⟨⟩; exact List.prefix_rfl⟩
    | enqueueBurst objs => exact ⟨⟨rfl, hsettled.symm⟩, by rintro _ ⟨⟩; exact List.prefix_rfl⟩
    | dequeue => exact ⟨⟨rfl, hsettled.symm⟩, by rintro _ ⟨⟩; exact le_rfl⟩
    | dequeueBurst maxCount => exact ⟨⟨rfl, hsettled.symm⟩, by rintro _ ⟨⟩; exact le_rfl⟩
  apply hserial.set huser (Or.inr (Or.inr ?_)) hfits
  · exact fun _ _ _ hother ↦ hother
  · exact fun side _ hold ↦ hold (by simp [RingStage.side])
  · exact hserial.room
  · rw [hside]
    exact hfree

/-! ## One step -/

/-- The queue has a ring on which the operations are serial, and its accepted mbufs are the
delivered ones followed by the contents of the ring. -/
structure Serves (config : Config (SharedQueue Mbuf) (RingUser Mbuf)) (ring : SlotRing Mbuf) :
    Prop where
  stored : config.shared.queue.ring = some ring
  serial : Serial ring config.workers
  order : config.shared.accepted = config.shared.delivered ++ ring.contents

variable {config : Config (SharedQueue Mbuf) (RingUser Mbuf)} {ring : SlotRing Mbuf} {place : ℕ}
  {call : RingCall Mbuf} {rest : List (RingCall Mbuf)}

/-- A step of an enqueue keeps the queue served. -/
theorem Serves.enqueue {stage : Enqueue Mbuf} (hserves : Serves config ring)
    (huser : config.workers[place]? = some ⟨call :: rest, .enqueuing stage⟩) :
    ∃ after, Serves (ringStep config place) after := by
  obtain ⟨hstored, hserial, horder⟩ := hserves
  obtain ⟨hfits, hitems⟩ := hserial.fits _ (List.mem_of_getElem? huser)
  have hproceeds := hfits.step hserial.room
  have hmove : ringStep config place = _ := step_of_worker huser
  simp only [RingUser.advance, hstored] at hmove
  rw [hmove]
  cases hstep : ring.enqueueStep stage with
  | mk after outcome =>
    rw [hstep] at hproceeds
    refine ⟨after, ?_⟩
    cases outcome with
    | running next =>
      obtain ⟨hnext, hpart, hproduced⟩ := hproceeds
      have hmoved : RingUser.Fits after ⟨call :: rest, .enqueuing next⟩ :=
        ⟨hnext, fun other hother ↦ hpart.trans (hitems other hother)⟩
      refine ⟨rfl, hserial.running huser rfl rfl (keepsOther_of_produced hproduced) hmoved, ?_⟩
      rw [hproduced.contents, List.append_nil]
      exact horder
    | finished items =>
      obtain ⟨hheads, hpart, hproduced⟩ := hproceeds
      obtain ⟨haccepted, hdelivered⟩ := reports_enqueued (hpart.trans (hitems call rfl))
      refine ⟨rfl, hserial.finished huser rfl (keepsOther_of_produced hproduced) hheads rest, ?_⟩
      dsimp only
      rw [accepted_report, delivered_report, haccepted, hdelivered, hproduced.contents,
        List.append_nil, ← List.append_assoc]
      exact congrArg (· ++ items) horder

/-- A step of a dequeue keeps the queue served. -/
theorem Serves.dequeue {stage : Dequeue Mbuf} (hserves : Serves config ring)
    (huser : config.workers[place]? = some ⟨call :: rest, .dequeuing stage⟩) :
    ∃ after, Serves (ringStep config place) after := by
  obtain ⟨hstored, hserial, horder⟩ := hserves
  obtain ⟨hfits, hcount⟩ := hserial.fits _ (List.mem_of_getElem? huser)
  have hproceeds := hfits.step
  have hmove : ringStep config place = _ := step_of_worker huser
  simp only [RingUser.advance, hstored] at hmove
  rw [hmove]
  cases hstep : ring.dequeueStep stage with
  | mk after outcome =>
    rw [hstep] at hproceeds
    refine ⟨after, ?_⟩
    cases outcome with
    | running next =>
      obtain ⟨hnext, hle, hconsumed⟩ := hproceeds
      have hmoved : RingUser.Fits after ⟨call :: rest, .dequeuing next⟩ :=
        ⟨hnext, fun other hother ↦ hle.trans (hcount other hother)⟩
      refine ⟨rfl, hserial.running huser rfl rfl
        (keepsOther_of_consumed hconsumed hserial.room) hmoved, ?_⟩
      rw [hconsumed.contents, List.nil_append] at horder
      exact horder
    | finished items =>
      obtain ⟨hheads, hle, hconsumed⟩ := hproceeds
      obtain ⟨haccepted, hdelivered⟩ := reports_dequeued (hle.trans (hcount call rfl))
      refine ⟨rfl, hserial.finished huser rfl
        (keepsOther_of_consumed hconsumed hserial.room) hheads rest, ?_⟩
      dsimp only
      rw [accepted_report, delivered_report, haccepted, hdelivered, List.append_nil,
        List.append_assoc, ← hconsumed.contents]
      exact horder

/-- A step that overlaps no other call on its side keeps the queue served. -/
theorem Serves.step (hserves : Serves config ring) (hoverlap : NoOverlap config place) :
    ∃ after, Serves (ringStep config place) after := by
  cases huser : config.workers[place]? with
  | none =>
    have hidle : ringStep config place = config := by
      simp only [ringStep, Interleaving.step, huser]
    rw [hidle]
    exact ⟨ring, hserves⟩
  | some user =>
    obtain ⟨calls, stage⟩ := user
    cases calls with
    | nil =>
      have hidle : ringStep config place = config := by
        have hmove : ringStep config place = _ := step_of_worker huser
        obtain ⟨hplace, hget⟩ := List.getElem?_eq_some_iff.mp huser
        have hself := List.set_getElem_self hplace
        rw [hget] at hself
        exact hmove.trans (congrArg (Config.mk config.shared) hself)
      rw [hidle]
      exact ⟨ring, hserves⟩
    | cons call rest =>
      cases stage with
      | enqueuing stage => exact hserves.enqueue huser
      | dequeuing stage => exact hserves.dequeue huser
      | idle =>
        have hmove : ringStep config place = _ := step_of_worker huser
        simp only [RingUser.advance, hserves.stored] at hmove
        rw [hmove]
        exact ⟨ring, hserves.stored,
          hserves.serial.begin huser (hoverlap _ huser rfl call rfl), hserves.order⟩

/-! ## Every run -/

/-- There is no ring and nothing was accepted, or the queue is served. -/
def Ordered (config : Config (SharedQueue Mbuf) (RingUser Mbuf)) : Prop :=
  config.shared.queue.ring = none ∧ config.shared.accepted = [] ∧ config.shared.delivered = [] ∨
    ∃ ring, Serves config ring

/-- Without a ring nothing is ever accepted or delivered. -/
theorem ordered_step_of_none (hnone : config.shared.queue.ring = none)
    (haccepted : config.shared.accepted = []) (hdelivered : config.shared.delivered = []) :
    Ordered (ringStep config place) := by
  refine Or.inl (step_induction config (place, ())
    (fun config ↦ config.shared.queue.ring = none ∧ config.shared.accepted = [] ∧
      config.shared.delivered = []) ⟨hnone, haccepted, hdelivered⟩ ?_)
  intro user shared moved _ hmove
  obtain ⟨calls, stage⟩ := user
  cases calls with
  | nil =>
    obtain ⟨rfl, -⟩ := Prod.mk.inj hmove
    exact ⟨hnone, haccepted, hdelivered⟩
  | cons call rest =>
    simp only [RingUser.advance, hnone] at hmove
    obtain ⟨rfl, -⟩ := Prod.mk.inj hmove
    have hrefused : call.refused.accepted = [] ∧ call.refused.delivered = [] := by
      cases call <;> exact ⟨rfl, rfl⟩
    refine ⟨hnone, ?_, ?_⟩
    · rw [accepted_report, haccepted, hrefused.1, List.append_nil]
    · rw [delivered_report, hdelivered, hrefused.2, List.append_nil]

theorem Ordered.step (hordered : Ordered config) (hoverlap : NoOverlap config place) :
    Ordered (ringStep config place) := by
  rcases hordered with ⟨hnone, haccepted, hdelivered⟩ | ⟨ring, hserves⟩
  · exact ordered_step_of_none hnone haccepted hdelivered
  · exact Or.inr (hserves.step hoverlap)

/-- Idle threads on a ring whose sides are both settled. -/
theorem Serial.of_idle {users : List (RingUser Mbuf)} (hidle : ∀ user ∈ users, user.stage = .idle)
    (hsettled : ∀ side, Settled ring side) (hroom : ring.used ≤ ring.capacity) :
    Serial ring users where
  fits := by
    intro user huser
    rw [RingUser.Fits, hidle user huser]
    trivial
  alone := by
    intro first second one two hone _ _ hbusy
    rw [hidle one (List.mem_of_getElem? hone)] at hbusy
    exact absurd rfl hbusy
  settled := fun side _ ↦ hsettled side
  room := hroom

/-- A queue that its constructor has just made is in order. -/
theorem ordered_start {rteRingCreate : RingRequest → Option (SlotRing Mbuf)}
    (hcreate : CreatesEmptyRings rteRingCreate) (name : String) (size : UInt32)
    (numaNode : Int32) (sp sc : Bool) (workloads : List (List (RingCall Mbuf))) :
    Ordered (startCalls (.create rteRingCreate name size numaNode sp sc) workloads) := by
  cases hring : (RingQueue.create rteRingCreate name size numaNode sp sc).ring with
  | none => exact Or.inl ⟨hring, rfl, rfl⟩
  | some ring =>
    obtain ⟨hprod, hcons, hempty⟩ := hcreate _ ring hring
    have hused : ring.used = 0 := by
      rw [SlotRing.used, hempty, UInt32.sub_self]
      rfl
    have hcontents : ring.contents = [] := by
      rw [← List.length_eq_zero_iff, SlotRing.length_contents, hused]
    refine Or.inr ⟨ring, hring, Serial.of_idle ?_ ?_ (by rw [hused]; exact Nat.zero_le _), ?_⟩
    · intro user huser
      obtain ⟨calls, -, rfl⟩ := List.mem_map.mp huser
      rfl
    · intro side
      cases side with
      | producer => exact hprod
      | consumer => exact hcons
    · rw [hcontents]
      rfl

theorem Ordered.owned [DecidableEq Mbuf] (hordered : Ordered config) : config.shared.Owned := by
  rcases hordered with ⟨-, haccepted, hdelivered⟩ | ⟨ring, hserves⟩
  · constructor
    · rw [haccepted, hdelivered]
      exact fun _ ↦ le_rfl
    · rw [haccepted]
      exact fun _ ↦ Nat.zero_le _
  · have hcontents : config.shared.contents = ring.contents := by
      rw [SharedQueue.contents, hserves.stored]
      rfl
    constructor
    · intro mbuf
      rw [hserves.order, List.count_append]
      exact Nat.le_add_right _ _
    · intro mbuf
      rw [hserves.order, List.count_append, hcontents]

/-! ## One thread on each side -/

/-- The calls on each side of the ring are all of one thread. -/
def OneCallerPerSide (workloads : List (List (RingCall Mbuf))) : Prop :=
  ∀ (first second : ℕ) (one two : List (RingCall Mbuf)), workloads[first]? = some one →
    workloads[second]? = some two → first ≠ second →
      ∀ call ∈ one, ∀ other ∈ two, call.side ≠ other.side

/-- The threads work through their workloads, and each on a side of a call it has not finished. -/
def WorkThrough (workloads : List (List (RingCall Mbuf)))
    (config : Config (SharedQueue Mbuf) (RingUser Mbuf)) : Prop :=
  ∀ (place : ℕ) (user : RingUser Mbuf), config.workers[place]? = some user →
    ∃ calls, workloads[place]? = some calls ∧ user.calls <:+ calls ∧
      ∀ side ∈ user.stage.side, ∃ call ∈ user.calls, call.side = side

theorem calls_advance (shared : SharedQueue Mbuf) {user : RingUser Mbuf}
    (hside : ∀ side ∈ user.stage.side, ∃ call ∈ user.calls, call.side = side) :
    (user.advance shared).2.calls <:+ user.calls ∧
      ∀ side ∈ (user.advance shared).2.stage.side,
        ∃ call ∈ (user.advance shared).2.calls, call.side = side := by
  obtain ⟨calls, stage⟩ := user
  have hended (calls : List (RingCall Mbuf)) :
      ∀ side ∈ (RingStage.idle : RingStage Mbuf).side, ∃ call ∈ calls, call.side = side := by
    rintro _ ⟨⟩
  cases calls with
  | nil => exact ⟨List.suffix_rfl, hside⟩
  | cons call rest =>
    cases hring : shared.queue.ring with
    | none =>
      simp only [RingUser.advance, hring]
      exact ⟨List.suffix_cons _ _, hended rest⟩
    | some ring =>
      cases stage with
      | idle =>
        simp only [RingUser.advance, hring]
        refine ⟨List.suffix_rfl, fun side hbegun ↦ ⟨call, List.mem_cons_self, ?_⟩⟩
        cases call <;> exact Option.some.inj hbegun
      | enqueuing stage =>
        cases hstep : ring.enqueueStep stage with
        | mk after outcome =>
          cases outcome with
          | running next =>
            simp only [RingUser.advance, hring, hstep]
            exact ⟨List.suffix_rfl, hside⟩
          | finished items =>
            simp only [RingUser.advance, hring, hstep]
            exact ⟨List.suffix_cons _ _, hended rest⟩
      | dequeuing stage =>
        cases hstep : ring.dequeueStep stage with
        | mk after outcome =>
          cases outcome with
          | running next =>
            simp only [RingUser.advance, hring, hstep]
            exact ⟨List.suffix_rfl, hside⟩
          | finished items =>
            simp only [RingUser.advance, hring, hstep]
            exact ⟨List.suffix_cons _ _, hended rest⟩

theorem WorkThrough.step {workloads : List (List (RingCall Mbuf))}
    (hwork : WorkThrough workloads config) (place : ℕ) :
    WorkThrough workloads (ringStep config place) := by
  refine step_induction config (place, ()) (WorkThrough workloads) hwork ?_
  intro user shared moved huser hmove index other hother
  rcases getElem?_set_eq_some hother with ⟨rfl, rfl⟩ | ⟨hold, -⟩
  · obtain ⟨calls, hcalls, hsuffix, hside⟩ := hwork index user huser
    obtain ⟨hadvanced, hkept⟩ := calls_advance config.shared hside
    rw [hmove] at hadvanced hkept
    exact ⟨calls, hcalls, hadvanced.trans hsuffix, hkept⟩
  · exact hwork index other hold

theorem WorkThrough.noOverlap {workloads : List (List (RingCall Mbuf))}
    (hwork : WorkThrough workloads config) (hone : OneCallerPerSide workloads) (place : ℕ) :
    NoOverlap config place := by
  intro user huser hidle call hcall other hother hside
  obtain ⟨index, hindex⟩ := List.getElem?_of_mem hother
  by_cases hsame : index = place
  · subst hsame
    obtain rfl := Option.some.inj (huser.symm.trans hindex)
    rw [hidle] at hside
    cases hside
  · obtain ⟨own, hown, hsuffix, -⟩ := hwork place user huser
    obtain ⟨others, hothers, hrest, hbusy⟩ := hwork index other hindex
    obtain ⟨busy, hmem, hbusySide⟩ := hbusy _ hside
    exact hone index place others own hothers hown hsame busy (hrest.subset hmem) call
      (hsuffix.subset (List.mem_of_mem_head? hcall)) hbusySide

/-- Calls of threads that share no side of the ring never overlap. -/
theorem noOverlap_of_oneCaller (queue : RingQueue Mbuf) {workloads : List (List (RingCall Mbuf))}
    (hone : OneCallerPerSide workloads) (schedule : List ℕ) :
    Execution.StepsMeet ringStep NoOverlap (startCalls queue workloads) schedule := by
  have hstart : WorkThrough workloads (startCalls queue workloads) := by
    intro place user huser
    change (workloads.map _)[place]? = some user at huser
    rw [List.getElem?_map] at huser
    obtain ⟨calls, hcalls, rfl⟩ := Option.map_eq_some_iff.mp huser
    exact ⟨calls, hcalls, List.suffix_rfl, by rintro _ ⟨⟩⟩
  exact Execution.stepsMeet_of_forall (WorkThrough workloads) hstart fun config place _ hwork ↦
    ⟨hwork.noOverlap hone place, hwork.step place⟩

/-- **Ring ownership.** Whatever the flags, the threads and their calls, in every run in which no
call begins while another one is under way on the same side of the ring, the accepted mbufs are
delivered at most once, and are delivered or still in the ring. So it is in all runs with one thread
on each side. -/
theorem owned_of_noOverlap [DecidableEq Mbuf]
    (rteRingCreate : RingRequest → Option (SlotRing Mbuf))
    (hcreate : CreatesEmptyRings rteRingCreate) (name : String) (size : UInt32)
    (numaNode : Int32) (sp sc : Bool) (workloads : List (List (RingCall Mbuf)))
    (schedule : List ℕ) :
    let queue := RingQueue.create rteRingCreate name size numaNode sp sc
    (Execution.StepsMeet ringStep NoOverlap (startCalls queue workloads) schedule →
      ∀ before, before <+: schedule → (runCalls queue workloads before).shared.Owned) ∧
    (OneCallerPerSide workloads →
      Execution.StepsMeet ringStep NoOverlap (startCalls queue workloads) schedule) := by
  intro queue
  refine ⟨fun hoverlap ↦ ?_, fun hone ↦ noOverlap_of_oneCaller queue hone schedule⟩
  have hordered := Execution.forall_prefix_of_stepsMeet Ordered
    (ordered_start hcreate name size numaNode sp sc workloads)
    (fun _ _ hstep hordered ↦ hordered.step hstep) hoverlap
  exact fun before hbefore ↦ (hordered before hbefore).owned

/-- A ring of eight slots for mbufs given by their addresses. -/
def createEight : RingRequest → Option (SlotRing ℕ) :=
  fun _ ↦ some ⟨3, by decide, 0, 0, 0, 0, fun _ ↦ 0⟩

theorem createEight_empty : CreatesEmptyRings createEight := by
  rintro request ring ⟨⟩
  exact ⟨rfl, rfl, rfl⟩

/-- A producer that finishes before another one begins, and a consumer beside the second one. -/
theorem owned_of_turns :
    (runCalls (.create createEight "ring" 8 0 false false)
      [[.enqueue 1], [.enqueue 2], [.dequeueBurst 4]]
      [0, 0, 0, 0, 0, 2, 1, 2, 1, 2, 1, 2, 1, 2, 1]).shared.Owned :=
  (owned_of_noOverlap createEight createEight_empty "ring" 8 0 false false
    [[.enqueue 1], [.enqueue 2], [.dequeueBurst 4]]
    [0, 0, 0, 0, 0, 2, 1, 2, 1, 2, 1, 2, 1, 2, 1]).1 (by decide +kernel) _ List.prefix_rfl

/-- On a ring created for several producers, two producers read the same head and write the same
slot, and the mbuf of the first is gone. On one created for several consumers, two consumers
read the same slot and both deliver its mbuf. -/
theorem overlapping_calls_disown :
    let producers := runCalls (.create createEight "ring" 8 0 false true)
      [[.enqueue 1], [.enqueue 2]] [0, 1, 0, 0, 0, 0, 1, 1, 1, 1]
    let consumers := runCalls (.create createEight "ring" 8 0 true false)
      [[.enqueueBurst [1, 2]], [.dequeue], [.dequeue]]
      [0, 0, 0, 0, 0, 0, 1, 2, 1, 1, 1, 1, 2, 2, 2, 2]
    (producers.shared.accepted = [1, 2] ∧ producers.shared.delivered = [] ∧
      producers.shared.contents = [2] ∧ ¬producers.shared.Owned) ∧
    consumers.shared.accepted = [1, 2] ∧ consumers.shared.delivered = [1, 1] ∧
      consumers.shared.contents = [2] ∧ ¬consumers.shared.Owned := by
  refine ⟨⟨by decide +kernel, by decide +kernel, by decide +kernel, fun howned ↦ ?_⟩,
    by decide +kernel, by decide +kernel, by decide +kernel, fun howned ↦ ?_⟩
  · exact absurd (howned.noLoss 1) (by decide +kernel)
  · exact absurd (howned.noDuplicate 1) (by decide +kernel)

end VirtualServiceGateway.Dpdk
