import Vussa.Model.Handler
import Vussa.Model.Names

/-!
Channel names sent back by the client. `normalize_channel_name` (`api/channels.rs`) checks the
length and the characters of a name and then folds its case; the client sends the folded name, as
the server lists it, to join the channel, to page through it and to delete it
(`websocket/handler.rs`, `services.rs`), and the same checks run on the folded name.

* `SentBack`: a stored name is accepted as it is, wherever the client sends it;
* `sentBack_of_normalized`: the handlers ask no more than that;
* `FoldsToName`: the condition on the raw name, read off its characters one by one;
* `sentBack_iff`: **which raw names are stored under a name that can be sent back**.
-/

namespace Vussa

open Effect

variable {D : CharacterData} {U : Unicode} {raw name : String}

/-! ### Sending a name back -/

/-- What the client does with the name of a channel. Who may read the channel joins it, and on a
socket in it pages through its history; a moderator deletes it. -/
structure SentBack (U : Unicode) (name : String) : Prop where
  normalized : normalizeChannelName U name = .ok name
  joined : ∀ fresh user session active channel, ∀ s : Shared,
    ChannelAccess s.db s.now name user.id →
      (handleClientEvent U fresh user session active channel (.joinChannel name)).run s =
        .ok { switchTo := some name } s
  paged : ∀ fresh user session active createdAt id, ∀ s : Shared,
    ChannelAccess s.db s.now name user.id →
      ∃ event s', (sendPage name (some (createdAt, id))).run s = .ok event s' ∧
        (handleClientEvent U fresh user session active name
          (.loadHistory name createdAt id)).run s = .ok { sent := [event] } s'
  deleted : ∀ actor, ∀ s : Shared, s.db.WellFormed → .chatModerate ∈ actor.permissions →
    (s.db.liveChannel? name).isSome →
      ∃ s', (deleteChannelService U actor name).run s = .ok name s' ∧
        s'.db.liveChannel? name = none

/-- The name in an event is the normalized one. -/
lemma requestedChannel_of_normalized (h : normalizeChannelName U name = .ok name) :
    requestedChannel U name = .ok name := by
  rw [requestedChannel, h]

/-- After the deletion no channel of the name is live, since there is one row of the name. -/
lemma liveChannel?_deleted {db : Database} (hwf : db.WellFormed) {c : ChannelRow}
    (hc : db.liveChannel? name = some c) (now : Millis) :
    (db.updateChannel c.id fun c => { c with deletedAt := some now }).liveChannel? name = none := by
  obtain ⟨hmem, hname, -⟩ := Database.liveChannel?_some hc
  refine List.find?_eq_none.mpr fun row hrow => ?_
  rw [decide_eq_true_eq]
  obtain ⟨c', hc', rfl⟩ := List.mem_map.mp hrow
  rintro ⟨hname', hlive⟩
  split at hlive
  · exact absurd hlive (by simp)
  · next hid =>
    rw [if_neg hid] at hname'
    exact hid (congrArg ChannelRow.id
      (List.inj_on_of_nodup_map hwf.channelName hc' hmem (hname'.trans hname.symm)))

/-- A name that passes the check unchanged can be sent back. -/
lemma sentBack_of_normalized (h : normalizeChannelName U name = .ok name)
    (hmain : name ≠ mainChannel) : SentBack U name where
  normalized := h
  joined fresh user session active channel s haccess := by
    have hname := requestedChannel_of_normalized h
    have hok := ensureChannelAccess_eq_ok.mpr haccess
    simp only [handleClientEvent, check, run_bind, run_read, hname, hok, run_pure]
  paged fresh user session active createdAt id s haccess := by
    have hname := requestedChannel_of_normalized h
    have hok := ensureChannelAccess_eq_ok.mpr haccess
    obtain ⟨event, s', hpage⟩ : ∃ event s',
        (sendPage name (some (createdAt, id))).run s = .ok event s' := ⟨_, _, rfl⟩
    refine ⟨event, s', hpage, ?_⟩
    simp only [handleClientEvent, check, run_bind, run_read, hname, hok, ne_eq, not_true_eq_false,
      if_false, hpage, run_pure]
  deleted actor s hwf hpermission hlive := by
    obtain ⟨c, hc⟩ := Option.isSome_iff_exists.mp hlive
    have hallowed := requirePermission_eq_ok.mpr hpermission
    let deleted := (s.db.updateChannel c.id fun c => { c with deletedAt := some s.now }).recordAudit
      actor.id "channel.deleted" "channel" c.id [] s.now
    refine ⟨{ s.setDb deleted with
      published := s.published ++ [("_control", .channelDeleted name)] }, ?_,
      liveChannel?_deleted hwf hc s.now⟩
    simp only [deleteChannelService, check, transaction, run_bind, run_read, run_transact, hallowed,
      h, hmain, if_false, deleteChannel, hc, Except.map, broadcastControl, broadcast, run_update,
      run_pure]
    rfl

/-! ### Which names -/

/-- The lower cases of the characters make a name: none of them is the letter whose lower case has a
dot, and together they take at most forty bytes. -/
structure FoldsToName (D : CharacterData) (name : String) : Prop where
  undotted : dottedCapitalI ∉ name.toList
  bytes : (name.toList.map fun c => ((D.lower c).map Char.utf8Size).sum).sum ≤ 40

/-- A dotted letter leaves its dot. -/
lemma combiningDot_mem_lowercase (h : dottedCapitalI ∈ name.toList) :
    combiningDot ∈ (D.lowercase name).toList := by
  rw [CharacterData.toList_lowercase]
  refine D.mem_lowerFrom_of_mem h (by decide) ?_
  rw [D.lower_dottedCapitalI]
  exact List.mem_cons_of_mem _ (List.mem_singleton_self _)

lemma combiningDot_not_nameChar : ¬ D.unicode.isNameChar combiningDot := by
  rw [D.isNameChar_iff, D.combiningDot_alphanumeric]
  decide

/-- The stored name passes the check exactly if the characters fold to a name. -/
lemma normalized_iff (h : normalizeChannelName D.unicode raw = .ok name)
    (hmain : name ≠ mainChannel) :
    normalizeChannelName D.unicode name = .ok name ↔ FoldsToName D (trim raw) := by
  obtain ⟨hne, -, -, hchars, rfl⟩ := normalizeChannelName_eq_ok_iff.mp h
  rw [normalizeChannelName_eq_ok_iff]
  simp only [CharacterData.unicode_toLowercase] at hmain ⊢
  rw [D.trim_lowercase hchars, D.utf8ByteSize_lowercase, D.lowercase_lowercase]
  constructor
  · rintro ⟨-, hbytes, -, hname, -⟩
    refine ⟨fun hdotted => ?_, hbytes⟩
    exact combiningDot_not_nameChar (hname _ (combiningDot_mem_lowercase hdotted))
  · intro hfolds
    refine ⟨fun hempty => hne (D.lowercase_eq_empty hempty), hfolds.bytes, hmain, ?_, rfl⟩
    intro d hd
    rcases D.isNameChar_lowercase hchars hd with hd | ⟨hdotted, -⟩
    · exact hd
    · exact absurd hdotted hfolds.undotted

/-- **Names that can be sent back**: the name a channel is stored under is accepted wherever the
client sends it exactly if the raw name has no `U+0130` and the lower cases of its characters take
at most forty bytes. -/
theorem sentBack_iff (D : CharacterData) {raw name : String}
    (h : normalizeChannelName D.unicode raw = .ok name) (hmain : name ≠ mainChannel) :
    SentBack D.unicode name ↔ FoldsToName D (trim raw) := by
  rw [← normalized_iff h hmain]
  exact ⟨SentBack.normalized, fun hnormalized => sentBack_of_normalized hnormalized hmain⟩

/-- A channel under a name in capital letters. -/
theorem sentBack_teamRoom : SentBack unicode15Plain.unicode "team-room" :=
  have hname : normalizeChannelName unicode15Plain.unicode "  Team-Room  " = .ok "team-room" := by
    decide +kernel
  (sentBack_iff unicode15Plain hname (by decide)).mpr ⟨by decide +kernel, by decide +kernel⟩

/-- The dotted letter alone, and twenty letters of two bytes whose lower cases have three, are
stored under names that the next check refuses. -/
theorem not_sentBack_dotted :
    (∃ name, normalizeChannelName unicode15Plain.unicode "İ" = .ok name ∧ name ≠ mainChannel ∧
      ¬ SentBack unicode15Plain.unicode name) ∧
    ∃ name, normalizeChannelName unicode15Plain.unicode (String.ofList (List.replicate 20 'Ⱥ')) =
      .ok name ∧ name ≠ mainChannel ∧ ¬ SentBack unicode15Plain.unicode name := by
  refine ⟨⟨String.ofList ['i', combiningDot], by decide +kernel, by decide, fun h => ?_⟩,
    ⟨String.ofList (List.replicate 20 'ⱥ'), by decide +kernel, by decide, fun h => ?_⟩⟩
  · exact absurd h.normalized (by decide +kernel)
  · exact absurd h.normalized (by decide +kernel)

end Vussa
