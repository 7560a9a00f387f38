/-
Which lists of an encrypted conversation lose no message.  The marks that a
list takes away are those of the records it finds, whatever the limit and the
dates of the request let through.
-/
import Mathlib.Data.List.Basic
import SamaServer.EncryptedMessages

namespace SamaServer

open Fallible

namespace EncryptedChat

/-- The message of a conversation is still to be delivered to the device with
this name. -/
def IsAwaited (s : EncryptedChat) (name : String) (cid mid : ObjectId) :
    Prop :=
  ∃ status ∈ s.marks, status.mid = mid ∧ isMarked name cid status

/-- The messages that belong to records. -/
def pending (s : EncryptedChat) (records : List EncryptedMessageStatus) :
    List ChatMessage :=
  s.chat.messages.filter (fun message =>
    message.id ∈ records.map EncryptedMessageStatus.mid)

end EncryptedChat

/-- The answer to a list contains the message. -/
def Returns (answer : Except ConversationError MessageList)
    (mid : ObjectId) : Prop :=
  ∃ shown : MessageList, answer = .ok shown ∧
    mid ∈ shown.map (fun entry => entry.1.id)

/-- Every message whose mark for the device is gone, or which is gone itself,
is in the answer. -/
def LosesNothing (name : String) (s : EncryptedChat)
    (answer : Except ConversationError MessageList) (t : EncryptedChat) :
    Prop :=
  ∀ message ∈ s.chat.messages,
    (∃ cid, s.IsAwaited name cid message.id ∧
        ¬t.IsAwaited name cid message.id) ∨
      message ∉ t.chat.messages → Returns answer message.id

namespace EncryptedOperations

open MessageOperations

variable (config : ChatConfig) (server : Documents.Choice EncryptedDevice)
  (session : ConversationSession) (deviceId : Option DeviceId)

/-- The request lists this encrypted conversation. -/
def Lists (params : ListParams) (s : EncryptedChat)
    (conversation : ConversationModel) : Prop :=
  ∃ access, HasAccess config session (fun _ => false) params.cid s.chat
      access ∧ access.conversation = conversation ∧
    isEncrypted conversation ∧
    (s.chat.conversations.findUserById session.userId).isSome

/-- The messages of the records that the request finds are all of the dates
it asks for, and no more than its limit. -/
def Fits (params : ListParams) (s : EncryptedChat) : Prop :=
  ∀ conversation records, Lists config session params s conversation →
    s.findMarked (s.identityKey server session.userId deviceId)
      conversation.id = .ok records →
    (∀ message ∈ s.pending records, params.filter.inPeriod message) ∧
      (s.pending records).length ≤
        cursorLimit (normalizeLimitParam config params.limit) s.chat

end EncryptedOperations

/-! ### Marks -/

namespace EncryptedChat

variable {s : EncryptedChat} {name : String} {cid : ObjectId}
  {records : List EncryptedMessageStatus}

theorem mem_of_findMarked (hfound : s.findMarked name cid = .ok records)
    {record : EncryptedMessageStatus} (hrecord : record ∈ records) :
    record ∈ s.marks ∧ isMarked name cid record := by
  rw [findMarked] at hfound
  split at hfound
  · cases hfound
  · split at hfound
    · cases hfound
      exact List.mem_filter.1 (List.mem_of_mem_take hrecord)
    · cases hfound
      cases hrecord

/-- The ids of the records that only this device is marked in. -/
def lastMarks (name : String) (records : List EncryptedMessageStatus) :
    List ObjectId :=
  (records.filter (fun record =>
    record.notDelivered.all (fun key => key = name))).map
      EncryptedMessageStatus.mid

theorem mem_of_mem_lastMarks {mid : ObjectId}
    (hmid : mid ∈ lastMarks name records) :
    mid ∈ records.map EncryptedMessageStatus.mid := by
  obtain ⟨record, hrecord, heq⟩ := List.mem_map.1 hmid
  exact List.mem_map.2 ⟨record, List.mem_of_mem_filter hrecord, heq⟩

/-- The marks after the two writes of a list. -/
def clearMarks (s : EncryptedChat) (name : String)
    (records : List EncryptedMessageStatus) : EncryptedChat :=
  (s.deleteMarks (lastMarks name records)).unsetMarks name
    ((records.map EncryptedMessageStatus.mid).filter (fun mid =>
      mid ∉ lastMarks name records))

/-- A record that is left is as before, or has lost its mark. -/
theorem mem_clearMarks {status : EncryptedMessageStatus}
    (hstatus : status ∈ (s.clearMarks name records).marks) :
    status ∈ s.marks ∧
        status.mid ∉ records.map EncryptedMessageStatus.mid ∨
      name ∉ status.notDelivered := by
  obtain ⟨old, hold, heq⟩ := List.mem_map.1 hstatus
  rw [deleteMarks, List.mem_filter, decide_eq_true_iff] at hold
  split at heq
  · rw [← heq]
    exact .inr (by simp)
  · next hkept =>
      rw [List.mem_filter, decide_eq_true_iff] at hkept
      rw [← heq]
      exact .inl ⟨hold.1, fun hmid => hkept ⟨hmid, hold.2⟩⟩

theorem mem_clearMarks_of_not_mem {status : EncryptedMessageStatus}
    (hstatus : status ∈ s.marks)
    (hmid : status.mid ∉ records.map EncryptedMessageStatus.mid) :
    status ∈ (s.clearMarks name records).marks := by
  refine List.mem_map.2 ⟨status, ?_, ?_⟩
  · rw [deleteMarks, List.mem_filter, decide_eq_true_iff]
    exact ⟨hstatus, fun hlast => hmid (mem_of_mem_lastMarks hlast)⟩
  · exact if_neg (fun hunset => hmid (List.mem_of_mem_filter hunset))

/-- Exactly the messages of the records are no longer awaited. -/
theorem isAwaited_clearMarks {mid : ObjectId} :
    (s.clearMarks name records).IsAwaited name cid mid ↔
      s.IsAwaited name cid mid ∧
        mid ∉ records.map EncryptedMessageStatus.mid := by
  constructor
  · rintro ⟨status, hstatus, rfl, hmarked⟩
    rcases mem_clearMarks hstatus with ⟨hold, hmid⟩ | hunmarked
    · exact ⟨⟨status, hold, rfl, hmarked⟩, hmid⟩
    · rw [isMarked, decide_eq_true_iff] at hmarked
      exact absurd hmarked.2 hunmarked
  · rintro ⟨⟨status, hstatus, rfl, hmarked⟩, hmid⟩
    exact ⟨status, mem_clearMarks_of_not_mem hstatus hmid, rfl, hmarked⟩

theorem isAwaited_of_found (hfound : s.findMarked name cid = .ok records)
    {mid : ObjectId} (hmid : mid ∈ records.map EncryptedMessageStatus.mid) :
    s.IsAwaited name cid mid := by
  obtain ⟨record, hrecord, rfl⟩ := List.mem_map.1 hmid
  obtain ⟨hmem, hmarked⟩ := mem_of_findMarked hfound hrecord
  exact ⟨record, hmem, rfl, hmarked⟩

end EncryptedChat

/-! ### Messages -/

namespace EncryptedChat

variable {s : EncryptedChat} {records : List EncryptedMessageStatus}

theorem mem_pending {message : ChatMessage} :
    message ∈ s.pending records ↔ message ∈ s.chat.messages ∧
      message.id ∈ records.map EncryptedMessageStatus.mid := by
  rw [pending, List.mem_filter, decide_eq_true_iff]

theorem message_unique (s : EncryptedChat) {message other : ChatMessage}
    (hmessage : message ∈ s.chat.messages) (hother : other ∈ s.chat.messages)
    (hid : message.id = other.id) : message = other := by
  have hnodup : (s.chat.messages.map (fun message => message.id)).Nodup := by
    rw [List.Nodup, List.pairwise_map]
    exact s.chat.messages_sorted.imp (fun hlt => Nat.ne_of_lt hlt)
  exact List.inj_on_of_nodup_map hnodup hmessage hother hid

theorem pending_nodup (s : EncryptedChat)
    (records : List EncryptedMessageStatus) : (s.pending records).Nodup := by
  have hsorted := s.chat.messages_sorted.sublist
    (List.filter_sublist (p := fun message : ChatMessage =>
      message.id ∈ records.map EncryptedMessageStatus.mid))
  refine hsorted.imp ?_
  intro earlier later hlt heq
  rw [heq] at hlt
  exact Nat.lt_irrefl _ hlt

/-- The messages that a list reads. -/
def read (s : EncryptedChat) (records : List EncryptedMessageStatus)
    (filter : ListFilter) (limit : Nat) : List ChatMessage :=
  (s.chat.messages.filter (fun message =>
    message.id ∈ records.map EncryptedMessageStatus.mid ∧
      filter.inPeriod message)).reverse.take limit

theorem mem_of_mem_read {filter : ListFilter} {limit : Nat}
    {message : ChatMessage} (hread : message ∈ s.read records filter limit) :
    message ∈ s.pending records ∧ filter.inPeriod message := by
  have hmem := List.mem_reverse.1 (List.mem_of_mem_take hread)
  rw [List.mem_filter, decide_eq_true_iff] at hmem
  exact ⟨mem_pending.2 ⟨hmem.1, hmem.2.1⟩, hmem.2.2⟩

/-- All pending messages are read exactly when the dates and the limit let
them through. -/
theorem pending_subset_read (filter : ListFilter) (limit : Nat) :
    s.pending records ⊆ s.read records filter limit ↔
      (∀ message ∈ s.pending records, filter.inPeriod message) ∧
        (s.pending records).length ≤ limit := by
  constructor
  · intro hall
    refine ⟨fun message hmessage => (mem_of_mem_read (hall hmessage)).2, ?_⟩
    have hshort : (s.read records filter limit).length ≤ limit :=
      List.length_take_le limit _
    have hsub := List.subperm_of_subset (s.pending_nodup records) hall
    exact hsub.length_le.trans hshort
  · rintro ⟨hperiod, hlength⟩ message hmessage
    have hfilter : s.chat.messages.filter (fun message =>
        message.id ∈ records.map EncryptedMessageStatus.mid ∧
          filter.inPeriod message) = s.pending records := by
      refine List.filter_congr ?_
      intro other hother
      by_cases hmid : other.id ∈ records.map EncryptedMessageStatus.mid
      · have hin := hperiod other (mem_pending.2 ⟨hother, hmid⟩)
        simp [hmid, hin]
      · simp [hmid]
    rw [read, hfilter, List.take_of_length_le (by simpa using hlength)]
    exact List.mem_reverse.2 hmessage

end EncryptedChat

/-! ### One list -/

namespace EncryptedOperations

open MessageOperations EncryptedChat ConversationService

variable {config : ChatConfig} {server : Documents.Choice EncryptedDevice}
  {session : ConversationSession} {deviceId : Option DeviceId}
  {params : ListParams} {s : EncryptedChat}
  {records : List EncryptedMessageStatus}

/-- The chat after a list: messages that nobody waits for are deleted. -/
def chatAfter (name : String) (s : EncryptedChat)
    (records : List EncryptedMessageStatus) : ChatStore :=
  if lastMarks name records = [] then s.chat
  else s.chat.deleteMessages (fun message =>
    message.id ∈ lastMarks name records)

/-- The list of an encrypted conversation whose marked records are found. -/
theorem exec_encryptedPart {conversation : ConversationModel} {user : User}
    (hfound : s.findMarked (s.identityKey server user.id deviceId)
      conversation.id = .ok records) :
    (encryptedPart config server session deviceId params conversation
        user).exec s =
      (.ok (assignMessageVirtualFields session
        (s.read records params.filter
          (cursorLimit (normalizeLimitParam config params.limit) s.chat))
        s.chat),
      { s.clearMarks (s.identityKey server user.id deviceId) records with
        chat := chatAfter (s.identityKey server user.id deviceId) s
          records }) := by
  simp only [encryptedPart, query, exec_command_bind]
  have hmids : (getMidsByIdentityKey (s.identityKey server user.id deviceId)
      conversation.id).exec s =
      (.ok (records.map EncryptedMessageStatus.mid,
        lastMarks (s.identityKey server user.id deviceId) records),
      s.clearMarks (s.identityKey server user.id deviceId) records) := by
    simp only [getMidsByIdentityKey, query, exec_command_bind, hfound]
    rfl
  rw [exec_bind_ok hmids]
  rfl

theorem exec_encryptedPart_error {conversation : ConversationModel}
    {user : User} {error : ConversationError}
    (hfound : s.findMarked (s.identityKey server user.id deviceId)
      conversation.id = .error error) :
    (encryptedPart config server session deviceId params conversation
        user).exec s = (.error error, s) := by
  simp only [encryptedPart, query, exec_command_bind]
  refine exec_bind_error ?_ _
  simp only [getMidsByIdentityKey, query, exec_command_bind, hfound]

theorem hasAccess_unique {refuses : ConversationAccess → Bool}
    {cid : TextId} {chat : ChatStore} {access other : ConversationAccess}
    (haccess : HasAccess config session refuses cid chat access)
    (hother : HasAccess config session refuses cid chat other) :
    access = other := by
  obtain ⟨c, isLowerCase, stored, rfl, hget, -, rfl, -⟩ := haccess
  obtain ⟨_, _, again, ⟨⟩, hagain, -, rfl, -⟩ := hother
  rw [hget] at hagain
  cases hagain
  rfl

/-- A program on the chat that only reads. -/
theorem exec_onChat_of_readOnly {A : Type} {program : ChatProgram A}
    (hprogram : program.ReadOnly) (s : EncryptedChat) :
    (onChat program).exec s = ((program.exec s.chat).1, s) := by
  rw [onChat, exec_command, hprogram s.chat]

/-- A request lists an encrypted conversation or changes nothing. -/
theorem exec_list_cases (config : ChatConfig)
    (server : Documents.Choice EncryptedDevice)
    (session : ConversationSession) (deviceId : Option DeviceId)
    (params : ListParams) (s : EncryptedChat) :
    (∃ conversation user, Lists config session params s conversation ∧
      user.id = session.userId ∧
      (list config server session deviceId params).exec s =
        (encryptedPart config server session deviceId params conversation
          user).exec s) ∨
    (∀ conversation, ¬Lists config session params s conversation) ∧
      ((list config server session deviceId params).exec s).2 = s := by
  simp only [list, query, exec_command_bind]
  rcases exec_hasAccess_cases config session (fun _ => false) params.cid
      s.chat with ⟨access, haccess, hexec⟩ | ⟨hnone, status, -, hexec⟩
  · have hlifted : (onChat (hasAccessToList config session params.cid)).exec
        s = (.ok access, s) := by
      rw [onChat, exec_command, hasAccessToList, hexec]
    rw [exec_bind_ok hlifted]
    cases huser : s.chat.conversations.findUserById session.userId with
    | none =>
        refine .inr ⟨?_, rfl⟩
        rintro conversation ⟨_, _, _, _, hsome⟩
        rw [huser] at hsome
        cases hsome
    | some user =>
        have hid := ConversationStore.id_of_findUserById huser
        by_cases hencrypted : isEncrypted access.conversation
        · refine .inl ⟨access.conversation, user,
            ⟨access, haccess, rfl, hencrypted, by rw [huser]; rfl⟩, hid, ?_⟩
          rw [exec_bind_ok rfl, if_pos hencrypted]
          rfl
        · refine .inr ⟨?_, ?_⟩
          · rintro conversation ⟨other, hother, rfl, hother_encrypted, _⟩
            rw [hasAccess_unique hother haccess] at hother_encrypted
            exact hencrypted hother_encrypted
          · rw [exec_bind_ok rfl, if_neg hencrypted]
            exact congrArg Prod.snd (exec_onChat_of_readOnly
              (readOnly_bind (readOnly_query _)
                (fun _ => readOnly_query _)) s)
  · have hlifted : (onChat (hasAccessToList config session params.cid)).exec
        s = (.error (.cause status), s) := by
      rw [onChat, exec_command, hasAccessToList, hexec]
    rw [exec_bind_error hlifted]
    refine .inr ⟨?_, rfl⟩
    rintro conversation ⟨access, haccess, _⟩
    exact hnone access haccess

theorem losesNothing_same (name : String) (s : EncryptedChat)
    (answer : Except ConversationError MessageList) :
    LosesNothing name s answer s := by
  rintro message hmessage (⟨cid, hawaited, hnot⟩ | hgone)
  · exact absurd hawaited hnot
  · exact absurd hmessage hgone

/-- A message is in the answer exactly when it was read. -/
theorem returns_iff {messages : List ChatMessage}
    (hmessages : messages ⊆ s.chat.messages) {message : ChatMessage}
    (hmessage : message ∈ s.chat.messages) :
    Returns (.ok (assignMessageVirtualFields session messages s.chat))
      message.id ↔ message ∈ messages := by
  constructor
  · rintro ⟨shown, hshown, hmid⟩
    cases hshown
    simp only [assignMessageVirtualFields, List.map_map, List.mem_map,
      Function.comp_apply] at hmid
    obtain ⟨other, hother, hid⟩ := hmid
    rw [← s.message_unique (hmessages hother) hmessage hid]
    exact hother
  · intro hmem
    refine ⟨_, rfl, ?_⟩
    simp only [assignMessageVirtualFields, List.map_map, List.mem_map,
      Function.comp_apply]
    exact ⟨message, hmem, rfl⟩

/-- Only messages whose last mark is taken away are deleted. -/
theorem mem_chatAfter {name : String} {message : ChatMessage}
    (hmessage : message ∈ s.chat.messages)
    (hgone : message ∉ (chatAfter name s records).messages) :
    message.id ∈ records.map EncryptedMessageStatus.mid := by
  rw [chatAfter] at hgone
  split at hgone
  · exact absurd hmessage hgone
  · by_contra hnot
    refine hgone (List.mem_filter.2 ⟨hmessage, ?_⟩)
    have hlast : message.id ∉ lastMarks name records :=
      fun hlast => hnot (mem_of_mem_lastMarks hlast)
    simp [hlast]

/-- Nothing is lost exactly when all pending messages were read. -/
theorem losesNothing_part {name : String} {cid : ObjectId}
    (hfound : s.findMarked name cid = .ok records)
    {messages : List ChatMessage} (hmessages : messages ⊆ s.chat.messages) :
    LosesNothing name s
        (.ok (assignMessageVirtualFields session messages s.chat))
        { s.clearMarks name records with
          chat := chatAfter name s records } ↔
      s.pending records ⊆ messages := by
  constructor
  · intro hloses message hpending
    obtain ⟨hmessage, hmid⟩ := mem_pending.1 hpending
    refine (returns_iff hmessages hmessage).1 (hloses message hmessage ?_)
    refine .inl ⟨cid, isAwaited_of_found hfound hmid, ?_⟩
    intro hawaited
    exact (isAwaited_clearMarks.1 hawaited).2 hmid
  · intro hall message hmessage hlost
    have hmid : message.id ∈ records.map EncryptedMessageStatus.mid := by
      rcases hlost with ⟨other, hawaited, hnot⟩ | hgone
      · by_contra hmid
        exact hnot (isAwaited_clearMarks.2 ⟨hawaited, hmid⟩)
      · exact mem_chatAfter hmessage hgone
    exact (returns_iff hmessages hmessage).2
      (hall (mem_pending.2 ⟨hmessage, hmid⟩))

theorem lists_unique {conversation other : ConversationModel}
    (hlists : Lists config session params s conversation)
    (hother : Lists config session params s other) :
    conversation = other := by
  obtain ⟨access, haccess, rfl, -⟩ := hlists
  obtain ⟨again, hagain, rfl, -⟩ := hother
  rw [hasAccess_unique haccess hagain]

/-- A list loses nothing exactly when the messages of its records fit into
the answer. -/
theorem losesNothing_list (config : ChatConfig)
    (server : Documents.Choice EncryptedDevice)
    (session : ConversationSession) (deviceId : Option DeviceId)
    (params : ListParams) (s : EncryptedChat) :
    LosesNothing (s.identityKey server session.userId deviceId) s
        ((list config server session deviceId params).exec s).1
        ((list config server session deviceId params).exec s).2 ↔
      Fits config server session deviceId params s := by
  rcases exec_list_cases config server session deviceId params s with
    ⟨conversation, user, hlists, huser, hexec⟩ | ⟨hnone, hsame⟩
  · rw [hexec]
    cases hfound : s.findMarked
        (s.identityKey server session.userId deviceId) conversation.id with
    | error error =>
        rw [← huser] at hfound ⊢
        rw [exec_encryptedPart_error hfound]
        refine iff_of_true (losesNothing_same _ s _) ?_
        intro other records hother hrecords
        rw [← lists_unique hlists hother, ← huser, hfound] at hrecords
        cases hrecords
    | ok records =>
        have hsubset : s.read records params.filter
            (cursorLimit (normalizeLimitParam config params.limit) s.chat) ⊆
              s.chat.messages := by
          intro message hread
          exact (mem_pending.1 (mem_of_mem_read hread).1).1
        rw [← huser] at hfound ⊢
        rw [exec_encryptedPart hfound, losesNothing_part hfound hsubset,
          pending_subset_read]
        constructor
        · intro hfits other again hother hagain
          rw [← lists_unique hlists hother, ← huser, hfound] at hagain
          cases hagain
          exact hfits
        · intro hfits
          rw [huser] at hfound
          exact hfits conversation records hlists hfound
  · rw [hsame]
    refine iff_of_true (losesNothing_same _ s _) ?_
    intro conversation records hlists
    exact absurd hlists (hnone conversation)

/-! ### Sequences of lists -/

/-- A list changes neither devices nor conversations. -/
theorem frame_list (config : ChatConfig)
    (server : Documents.Choice EncryptedDevice)
    (session : ConversationSession) (deviceId : Option DeviceId)
    (params : ListParams) (s : EncryptedChat) :
    ((list config server session deviceId params).exec s).2.devices =
        s.devices ∧
      ((list config server session deviceId params).exec s).2.chat.conversations
        = s.chat.conversations := by
  rcases exec_list_cases config server session deviceId params s with
    ⟨conversation, user, -, -, hexec⟩ | ⟨-, hsame⟩
  · rw [hexec]
    cases hfound : s.findMarked (s.identityKey server user.id deviceId)
        conversation.id with
    | error error =>
        rw [exec_encryptedPart_error hfound]
        exact ⟨rfl, rfl⟩
    | ok records =>
        rw [exec_encryptedPart hfound]
        refine ⟨rfl, ?_⟩
        simp only [chatAfter]
        split
        · rfl
        · rfl
  · rw [hsame]
    exact ⟨rfl, rfl⟩

theorem identityKey_congr {t : EncryptedChat} (hdevices : t.devices = s.devices)
    (server : Documents.Choice EncryptedDevice) (userId : ObjectId)
    (deviceId : Option DeviceId) :
    t.identityKey server userId deviceId =
      s.identityKey server userId deviceId := by
  rw [EncryptedChat.identityKey, hdevices]
  rfl

theorem lists_congr {t : EncryptedChat} {conversation : ConversationModel}
    (hconversations : t.chat.conversations = s.chat.conversations)
    (hlists : Lists config session params s conversation) :
    Lists config session params t conversation := by
  obtain ⟨access, haccess, hrest⟩ := hlists
  refine ⟨access, ?_, ?_⟩
  · rw [HasAccess, hconversations]
    exact haccess
  · rw [hconversations]
    exact hrest

variable (config server session deviceId)

/-- The collections after requests of the device, one after the other. -/
def listAll (s : EncryptedChat) : List ListParams → EncryptedChat
  | [] => s
  | params :: requests =>
      listAll ((list config server session deviceId params).exec s).2 requests

/-- The answers to these requests. -/
def answers (s : EncryptedChat) :
    List ListParams → List (Except ConversationError MessageList)
  | [] => []
  | params :: requests =>
      ((list config server session deviceId params).exec s).1 ::
        answers ((list config server session deviceId params).exec s).2
          requests

/-- What holds of every request and the collections it finds. -/
def EachList (P : ListParams → EncryptedChat → Prop) (s : EncryptedChat)
    (requests : List ListParams) : Prop :=
  ∀ done params rest, requests = done ++ params :: rest →
    P params (listAll config server session deviceId s done)

variable {config server session deviceId}

theorem EachList.head {P : ListParams → EncryptedChat → Prop}
    {requests : List ListParams}
    (heach : EachList config server session deviceId P s
      (params :: requests)) : P params s :=
  heach [] params requests rfl

theorem EachList.tail {P : ListParams → EncryptedChat → Prop}
    {requests : List ListParams}
    (heach : EachList config server session deviceId P s
      (params :: requests)) :
    EachList config server session deviceId P
      ((list config server session deviceId params).exec s).2 requests := by
  rintro done last rest rfl
  exact heach (params :: done) last rest rfl

/-- A message is returned or stays where it is. -/
theorem returned_or_awaited {requests : List ListParams}
    (hfits : EachList config server session deviceId
      (Fits config server session deviceId) s requests)
    {message : ChatMessage} {cid : ObjectId}
    (hmessage : message ∈ s.chat.messages)
    (hawaited : s.IsAwaited (s.identityKey server session.userId deviceId)
      cid message.id) :
    (∃ answer ∈ answers config server session deviceId s requests,
        Returns answer message.id) ∨
      message ∈
          (listAll config server session deviceId s requests).chat.messages ∧
        (listAll config server session deviceId s requests).IsAwaited
          (s.identityKey server session.userId deviceId) cid message.id := by
  induction requests generalizing s with
  | nil => exact .inr ⟨hmessage, hawaited⟩
  | cons params requests ih =>
      have hfirst := (losesNothing_list config server session deviceId params
        s).2 hfits.head message hmessage
      have hkey := identityKey_congr
        (frame_list config server session deviceId params s).1 server
          session.userId deviceId
      by_cases hkept : message ∈
          ((list config server session deviceId params).exec s).2.chat.messages
      · by_cases hstill :
            ((list config server session deviceId params).exec s).2.IsAwaited
              (s.identityKey server session.userId deviceId) cid message.id
        · rw [← hkey] at hstill ⊢
          rcases ih hfits.tail hkept hstill with ⟨answer, hanswer, hreturns⟩ |
            hlater
          · exact .inl ⟨answer, List.mem_cons_of_mem _ hanswer, hreturns⟩
          · exact .inr hlater
        · exact .inl ⟨_, List.mem_cons_self,
            hfirst (.inl ⟨cid, hawaited, hstill⟩)⟩
      · exact .inl ⟨_, List.mem_cons_self, hfirst (.inr hkept)⟩

/-- A list takes a hundred marks of the device out of the conversation. -/
theorem countP_clearMarks (s : EncryptedChat) (name : String)
    (cid : ObjectId) :
    (s.clearMarks name ((s.marks.filter (isMarked name cid)).take
        100)).marks.countP (isMarked name cid) ≤
      s.marks.countP (isMarked name cid) - 100 := by
  generalize hmarked : s.marks.filter (isMarked name cid) = marked
  have hlost : (s.clearMarks name (marked.take 100)).marks.countP
      (isMarked name cid) ≤ s.marks.countP (fun status =>
        decide (status.mid ∉ (marked.take 100).map
          EncryptedMessageStatus.mid) && isMarked name cid status) := by
    rw [clearMarks, unsetMarks, deleteMarks, List.countP_map,
      List.countP_filter]
    refine List.countP_mono_left ?_
    intro status _ hstatus
    simp only [Function.comp_apply, Bool.and_eq_true] at hstatus ⊢
    obtain ⟨hleft, hlast⟩ := hstatus
    by_cases hunset : status.mid ∈ ((marked.take 100).map
        EncryptedMessageStatus.mid).filter (fun mid =>
          mid ∉ lastMarks name (marked.take 100))
    · rw [if_pos hunset] at hleft
      simp [isMarked] at hleft
    · rw [if_neg hunset] at hleft
      refine ⟨?_, hleft⟩
      rw [List.mem_filter] at hunset
      rw [decide_eq_true_iff]
      exact fun hmid => hunset ⟨hmid, hlast⟩
  have hsplit : s.marks.countP (fun status =>
      decide (status.mid ∉ (marked.take 100).map
        EncryptedMessageStatus.mid) && isMarked name cid status) =
      (marked.take 100 ++ marked.drop 100).countP (fun status =>
        status.mid ∉ (marked.take 100).map EncryptedMessageStatus.mid) := by
    rw [List.take_append_drop, ← hmarked, List.countP_filter]
  have htaken : (marked.take 100).countP (fun status =>
      status.mid ∉ (marked.take 100).map EncryptedMessageStatus.mid) = 0 := by
    rw [List.countP_eq_zero]
    intro status hstatus
    rw [decide_eq_true_iff, not_not]
    exact List.mem_map_of_mem hstatus
  have hdropped := List.countP_le_length (l := marked.drop 100)
    (p := fun status => decide (status.mid ∉ (marked.take 100).map
      EncryptedMessageStatus.mid))
  rw [List.countP_append, htaken, Nat.zero_add] at hsplit
  rw [List.length_drop, ← hmarked, ← List.countP_eq_length_filter, hmarked]
    at hdropped
  exact hlost.trans (hsplit.trans_le hdropped)

theorem countP_list (hname : IsMarkName
      (s.identityKey server session.userId deviceId))
    {conversation : ConversationModel}
    (hlists : Lists config session params s conversation) :
    ((list config server session deviceId params).exec s).2.marks.countP
        (isMarked (s.identityKey server session.userId deviceId)
          conversation.id) ≤
      s.marks.countP (isMarked (s.identityKey server session.userId deviceId)
        conversation.id) - 100 := by
  rcases exec_list_cases config server session deviceId params s with
    ⟨other, user, hother, huser, hexec⟩ | ⟨hnone, -⟩
  · rw [hexec, ← lists_unique hlists hother]
    rw [← huser] at hname ⊢
    have hfound : s.findMarked (s.identityKey server user.id deviceId)
        conversation.id = .ok ((s.marks.filter (isMarked
          (s.identityKey server user.id deviceId) conversation.id)).take
            100) := by
      rw [findMarked, if_neg hname.1.2.2, if_pos hname]
    rw [exec_encryptedPart hfound]
    exact countP_clearMarks s _ conversation.id
  · exact absurd hlists (hnone conversation)

/-- Enough lists of a conversation leave no marks of the device in it. -/
theorem countP_listAll {requests : List ListParams}
    (hname : IsMarkName (s.identityKey server session.userId deviceId))
    {conversation : ConversationModel}
    (hlists : ∀ params ∈ requests,
      Lists config session params s conversation) :
    (listAll config server session deviceId s requests).marks.countP
        (isMarked (s.identityKey server session.userId deviceId)
          conversation.id) ≤
      s.marks.countP (isMarked (s.identityKey server session.userId deviceId)
        conversation.id) - 100 * requests.length := by
  induction requests generalizing s with
  | nil => exact Nat.le_refl _
  | cons params requests ih =>
      obtain ⟨hdevices, hconversations⟩ :=
        frame_list config server session deviceId params s
      have hkey := identityKey_congr hdevices server session.userId deviceId
      have hfirst := countP_list hname (hlists params List.mem_cons_self)
      rw [← hkey] at hname
      have hrest := ih hname (fun later hlater => lists_congr hconversations
        (hlists later (List.mem_cons_of_mem _ hlater)))
      rw [hkey] at hrest
      rw [listAll, List.length_cons]
      omega

/-- Two messages that a phone has not been sent, in an encrypted
conversation. -/
def twoUnsent : EncryptedChat where
  chat :=
    { ChatStore.oneMessage with
      conversations :=
        { ConversationStore.threeUsers with
          conversations := OrderedMap.empty.set 4 ⟨9, .u, .id 0,
            some (.id 1), some (.flag true), ⟨none, none, none, none⟩,
            .undefined⟩
          conversations_below := by decide }
      messages := [⟨⟨0, 4, 0⟩, 9, some "a", []⟩, ⟨⟨1, 4, 0⟩, 9, some "b", []⟩]
      nextMessageId := 2
      messages_sorted := by simp
      messages_below := by decide }
  devices := (DeviceTable.empty.create 1 Sample.phone
    ⟨"identity", "signed", .array []⟩).getD .empty
  marks := [⟨0, 4, ["identity"]⟩, ⟨1, 4, ["identity"]⟩]

end EncryptedOperations

end SamaServer
