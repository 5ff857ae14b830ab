import EventAutomata.Proofs.Hub.Traffic

/-!
# An orderly hub

The journal of an orderly hub accounts for every request there has been. What was taken out
of a channel is the beginning of what was put in, and if the channel is open the rest of it
waits. Traffic keeps a hub orderly, and so does opening and closing channels. When a channel is
closed, what waited in it is lost.
-/

namespace EventAutomata

variable {α : Type}

namespace Hub

variable {h h' : Hub α} {c d : ChannelId} {events : List (Event α)}

structure Orderly (h : Hub α) : Prop where
  taken : ∀ c, takenFrom c h.journal.toList <+: queuedIn c h.journal.toList
  waiting : ∀ c, h.isOpen c = true →
    queuedIn c h.journal.toList = takenFrom c h.journal.toList ++ h.queue c
  unused : ∀ c, h.channels.size ≤ c.index → queuedIn c h.journal.toList = []

theorem orderly_empty : ({} : Hub α).Orderly where
  taken _ := List.nil_prefix
  waiting _ hc := by simp [Hub.isOpen, queue?] at hc
  unused _ _ := rfl

theorem lt_size_of_isOpen (hc : h.isOpen c = true) : c.index < h.channels.size := by
  obtain ⟨q, hq⟩ := Option.isSome_iff_exists.1 hc
  exact lt_size_of_queue? hq

theorem queue_of_not_isOpen (hc : h.isOpen c = false) : h.queue c = [] := by
  have hnone : h.queue? c = none := by simpa [Hub.isOpen] using hc
  simp [queue, hnone]

-- ---------------------------------------------------------------------------
-- Traffic
-- ---------------------------------------------------------------------------

theorem Traffic.takenFrom_of_closed (ht : h.Traffic h' events) (hc : h.isOpen c = false) :
    takenFrom c events = [] := by
  have hqueue := ht.queue c
  rw [queue_of_not_isOpen hc, ht.closed c hc] at hqueue
  exact (List.append_eq_nil_iff.1 hqueue.symm).1

theorem Orderly.traffic (ho : h.Orderly) (ht : h.Traffic h' events) : h'.Orderly := by
  have hwaiting : ∀ c, h.isOpen c = true → queuedIn c h'.journal.toList =
      takenFrom c h'.journal.toList ++ h'.queue c := by
    intro c hc
    rw [ht.journal, queuedIn_append, takenFrom_append, ho.waiting c hc, List.append_assoc,
      ht.queue, List.append_assoc]
  refine ⟨fun c => ?_, fun c hc => hwaiting c (ht.isOpen c ▸ hc), fun c hc => ?_⟩
  · cases hc : h.isOpen c with
    | true =>
      rw [hwaiting c hc]
      exact List.prefix_append _ _
    | false =>
      rw [ht.journal, queuedIn_append, takenFrom_append, ht.closed c hc, ht.takenFrom_of_closed hc,
        List.append_nil, List.append_nil]
      exact ho.taken c
  · have hclosed : h.isOpen c = false := by
      refine Bool.eq_false_iff.2 fun hopen => ?_
      have hlt := lt_size_of_isOpen hopen
      rw [ht.size] at hc
      omega
    rw [ht.journal, queuedIn_append, ht.closed c hclosed, List.append_nil]
    exact ho.unused c (ht.size ▸ hc)

-- ---------------------------------------------------------------------------
-- Opening and closing
-- ---------------------------------------------------------------------------

theorem queue?_newChannel (h : Hub α) (c : ChannelId) :
    h.newChannel.2.queue? c = if c = h.newChannel.1 then some ∅ else h.queue? c := by
  simp only [newChannel, queue?, Array.getElem?_push, ChannelId.ext_iff]
  split <;> rfl

theorem isOpen_newChannel_self (h : Hub α) : h.newChannel.2.isOpen h.newChannel.1 = true := by
  simp [Hub.isOpen, queue?_newChannel]

theorem not_isOpen_newChannel (h : Hub α) : h.isOpen h.newChannel.1 = false := by
  refine Bool.eq_false_iff.2 fun hopen => ?_
  exact Nat.lt_irrefl _ (lt_size_of_isOpen hopen)

theorem isOpen_newChannel_of_isOpen (hc : h.isOpen c = true) : h.newChannel.2.isOpen c = true := by
  have hne : c ≠ h.newChannel.1 := by
    rintro rfl
    rw [not_isOpen_newChannel] at hc
    cases hc
  rwa [Hub.isOpen, queue?_newChannel, if_neg hne]

theorem Orderly.newChannel (ho : h.Orderly) : h.newChannel.2.Orderly := by
  refine ⟨ho.taken, fun c hc => ?_, fun c hc => ho.unused c ?_⟩
  · show queuedIn c h.journal.toList = takenFrom c h.journal.toList ++ _
    by_cases hnew : c = h.newChannel.1
    · have hnone : queuedIn c h.journal.toList = [] := ho.unused c (by rw [hnew]; exact Nat.le_refl _)
      have htaken := ho.taken c
      rw [hnone] at htaken
      rw [hnone, List.prefix_nil.1 htaken, List.nil_append, queue, queue?_newChannel, if_pos hnew]
      rfl
    · rw [Hub.isOpen, queue?_newChannel, if_neg hnew] at hc
      rw [queue, queue?_newChannel, if_neg hnew]
      exact ho.waiting c hc
  · have hsize : h.newChannel.2.channels.size = h.channels.size + 1 := Array.size_push _
    omega

theorem queue?_close_of_ne (h : Hub α) (hne : c ≠ d) : (h.close c).queue? d = h.queue? d := by
  rw [close, queue?_setQueue, if_neg hne]

theorem isOpen_close_self (h : Hub α) (c : ChannelId) : (h.close c).isOpen c = false := by
  rw [Hub.isOpen, close, queue?_setQueue, if_pos rfl]
  split <;> rfl

theorem Orderly.close (ho : h.Orderly) (c : ChannelId) : (h.close c).Orderly := by
  refine ⟨ho.taken, fun d hd => ?_, fun d hd => ho.unused d ?_⟩
  · have hne : c ≠ d := by
      rintro rfl
      rw [isOpen_close_self] at hd
      cases hd
    show queuedIn d h.journal.toList = takenFrom d h.journal.toList ++ _
    rw [Hub.isOpen, queue?_close_of_ne h hne] at hd
    rw [queue, queue?_close_of_ne h hne]
    exact ho.waiting d hd
  · simpa [Hub.close, setQueue] using hd

end Hub

end EventAutomata
