import FlowCloud.Client.SinkOrder

/-! # How far messages are told apart by their order

The heaps of a client compare messages by kind first and by id within the last kind.  All
init syncs are equal to the order, whatever their ids, while `PartialEq` tells them apart;
so the layout of a heap decides which of them is popped first, and nothing else.
-/

namespace FlowCloud.Entity.ClientCollabMessage

/-- `PartialEq`. -/
def eq (left right : ClientCollabMessage) : Bool :=
  left.msgId == right.msgId && left.objectId == right.objectId && left.origin == right.origin

def isServerInitSync : ClientCollabMessage → Bool
  | serverInitSync _ => true
  | _ => false

/-- An update or an awareness message. -/
def Plain (message : ClientCollabMessage) : Prop :=
  message.isClientInitSync = false ∧ message.isServerInitSync = false

/-- Two client inits, two server inits, or two others with one id. -/
def Ties (left right : ClientCollabMessage) : Prop :=
  left.isClientInitSync = true ∧ right.isClientInitSync = true ∨
    left.isServerInitSync = true ∧ right.isServerInitSync = true ∨
    left.Plain ∧ right.Plain ∧ left.msgId = right.msgId

theorem cmp_eq_iff (left right : ClientCollabMessage) : left.cmp right = .eq ↔ left.Ties right := by
  cases left <;> cases right <;> simp [cmp, Ties, Plain, isClientInitSync, isServerInitSync]

/-- Updates of one object from one origin are equal to the order where they are equal. -/
theorem cmp_eq_iff_eq {left right : ClientCollabMessage} (plain : left.Plain) (otherPlain : right.Plain)
    (sameObject : left.objectId = right.objectId) (sameOrigin : left.origin = right.origin) :
    left.cmp right = .eq ↔ left.eq right = true := by
  have noClientInit : ¬ (left.isClientInitSync = true ∧ right.isClientInitSync = true) := by simp [plain.1]
  have noServerInit : ¬ (left.isServerInitSync = true ∧ right.isServerInitSync = true) := by simp [plain.2]
  rw [cmp_eq_iff, Ties, or_iff_right noClientInit, or_iff_right noServerInit]
  simp [eq, plain, otherPlain, sameObject, sameOrigin]

end FlowCloud.Entity.ClientCollabMessage

namespace FlowCloud.Client

open FlowCloud.Foundation FlowCloud.Entity

/-- Layouts of one queue give out items that tie one by one, and the same ones where no two tie. -/
def PopsByOrder {Item : Type} (cmp : Item → Item → Ordering) : Prop :=
  ∀ queue layout items others left otherLeft : List Item, queue.Perm layout → Popped cmp queue items left →
    Popped cmp layout others otherLeft → items.length = others.length →
    List.Forall₂ (fun item other => cmp item other = .eq) items others ∧
      (queue.Pairwise (fun item other => cmp item other ≠ .eq) → items = others)

theorem popsByOrder {Item : Type} (cmp : Item → Item → Ordering) [Std.TransCmp cmp] : PopsByOrder cmp := by
  intro queue layout items others left otherLeft permuted popped otherPopped length
  constructor
  · exact popped.ties otherPopped permuted length
  · exact popped.eq_of_untied otherPopped permuted length

/-- The order of the messages is total up to the messages that tie, and it decides what a heap pops up to them. -/
theorem message_order :
    (∀ left right : ClientCollabMessage, right.cmp left = (left.cmp right).swap) ∧
      (∀ first second third : ClientCollabMessage, (first.cmp second).isLE = true → (second.cmp third).isLE = true →
        (first.cmp third).isLE = true) ∧
      (∀ left right : ClientCollabMessage, left.cmp right = .eq ↔ left.Ties right) ∧
      (∀ left right : ClientCollabMessage, left.Plain → right.Plain → left.objectId = right.objectId →
        left.origin = right.origin → (left.cmp right = .eq ↔ left.eq right = true)) ∧
      PopsByOrder QueueItem.cmp ∧ PopsByOrder ClientCollabMessage.cmp := by
  refine ⟨fun left right => Std.OrientedCmp.eq_swap, fun first second third => Std.TransCmp.isLE_trans,
    ClientCollabMessage.cmp_eq_iff, ?_, popsByOrder QueueItem.cmp, popsByOrder ClientCollabMessage.cmp⟩
  intro left right plain otherPlain sameObject sameOrigin
  exact ClientCollabMessage.cmp_eq_iff_eq plain otherPlain sameObject sameOrigin

/-! ## Two init syncs of a document -/

def initOf (msgId : MsgId) : ClientCollabMessage :=
  .clientInitSync ⟨.client 7 "phone", "document", .document, "workspace", msgId, []⟩

def updateOf (msgId : MsgId) : ClientCollabMessage := .clientUpdateSync ⟨.client 7 "phone", "document", msgId, [1]⟩

/-- Two updates come out in one order from either layout. -/
theorem message_order_updates :
    drain ClientCollabMessage.cmp [updateOf 1, updateOf 2] =
      drain ClientCollabMessage.cmp [updateOf 2, updateOf 1] := by
  have permuted : [updateOf 1, updateOf 2].Perm [updateOf 2, updateOf 1] := .swap _ _ _
  have pops := message_order.2.2.2.2.2 _ _ _ _ _ _ permuted (drain_popped _) (drain_popped _) rfl
  exact pops.2 (by decide)

/-- Two init syncs are equal to the order and not equal, and either may come out first. -/
theorem init_syncs_tie :
    (initOf 1).cmp (initOf 2) = .eq ∧ (initOf 1).eq (initOf 2) = false ∧
      drain QueueItem.cmp [⟨initOf 1, 1⟩, ⟨initOf 2, 2⟩] ≠ drain QueueItem.cmp [⟨initOf 2, 2⟩, ⟨initOf 1, 1⟩] := by
  refine ⟨rfl, ?_, ?_⟩
  · decide
  · decide

end FlowCloud.Client
