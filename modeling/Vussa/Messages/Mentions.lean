import Vussa.Model.Text

/-!
The names a message mentions, `extract_mentioned_usernames`, against its scope, `mention_scope`
(`api/notifications.rs`). Both read the tokens of the text. The scope folds the case of a token and
then compares it with `channel` and `here`; the names are compared first and folded afterwards.

* `mem_extractMentionedUsernames`, `extractMentionedUsernames_pairwise`: what is in the list, and
  its order;
* `scopeOf`, `scopeOf_isSome`: the scope of a token;
* `MentionsOk`: the list is in order, without the actor and without a scope;
* `mentionsOk_iff`: **which texts have such a list**: those that write a scope in lower case.
-/

namespace Vussa

variable {U : Unicode} {text actorUsername : String}

/-! ### The list -/

/-- The comparisons of `extract_mentioned_usernames`. -/
def Reported (U : Unicode) (actorUsername username : String) : Prop :=
  username ≠ "" ∧ username.utf8ByteSize ≤ 64 ∧ username ≠ "channel" ∧ username ≠ "here" ∧
    U.toLowercase username ≠ U.toLowercase actorUsername

/-- The mentioned names of a text, as they are written. -/
def mentioned (text : String) : List String :=
  (splitWhitespace text).filterMap mentionToken

/-- The list holds the folded names that pass the comparisons. -/
lemma mem_extractMentionedUsernames {name : String} :
    name ∈ extractMentionedUsernames U text actorUsername ↔
      ∃ username ∈ mentioned text, Reported U actorUsername username ∧
        U.toLowercase username = name := by
  rw [extractMentionedUsernames, List.mem_insertionSort, List.mem_dedup, List.mem_filterMap]
  simp only [mentioned, List.mem_filterMap]
  constructor
  · rintro ⟨token, htoken, h⟩
    split at h
    · next username husername =>
      split_ifs at h with hreported
      exact ⟨username, ⟨token, htoken, husername⟩, hreported, Option.some.inj h⟩
    · exact absurd h (by simp)
  · rintro ⟨username, ⟨token, htoken, husername⟩, hreported, rfl⟩
    refine ⟨token, htoken, ?_⟩
    rw [husername]
    exact if_pos hreported

/-- The list is in strict order: the set has dropped the duplicates. -/
lemma extractMentionedUsernames_pairwise :
    (extractMentionedUsernames U text actorUsername).Pairwise (· < ·) := by
  have hsorted : (extractMentionedUsernames U text actorUsername).Pairwise (· ≤ ·) :=
    List.pairwise_insertionSort (· ≤ ·) _
  have hnodup : (extractMentionedUsernames U text actorUsername).Nodup :=
    (List.perm_insertionSort (· ≤ ·) _).nodup_iff.mpr (List.nodup_dedup _)
  exact hsorted.imp₂ (fun _ _ hle hne => lt_of_le_of_ne hle hne) hnodup

/-- The actor is not in the list. -/
lemma actor_not_mem_extractMentionedUsernames :
    U.toLowercase actorUsername ∉ extractMentionedUsernames U text actorUsername := by
  rw [mem_extractMentionedUsernames]
  rintro ⟨username, -, ⟨-, -, -, -, hactor⟩, heq⟩
  exact hactor heq

/-! ### The scope -/

/-- The scope of a token, the closure of `mention_scope`. -/
def scopeOf (U : Unicode) (token : String) : Option MentionScope :=
  match (mentionToken token).map U.toLowercase with
  | some "channel" => some .channel
  | some "here" => some .here
  | _ => none

/-- A token has a scope if its folded name is `channel` or `here`. -/
lemma scopeOf_isSome {token : String} :
    (scopeOf U token).isSome ↔ ∃ username, mentionToken token = some username ∧
      (U.toLowercase username = "channel" ∨ U.toLowercase username = "here") := by
  unfold scopeOf
  cases mentionToken token with
  | none => simp
  | some username =>
      simp only [Option.map_some, Option.some.injEq]
      constructor
      · intro h
        refine ⟨username, rfl, ?_⟩
        split at h
        · next heq => exact .inl (Option.some.inj heq)
        · next heq => exact .inr (Option.some.inj heq)
        · exact absurd h (by simp)
      · rintro ⟨_, rfl, h⟩
        rcases h with h | h <;> simp [h]

/-! ### Scopes in the list -/

/-- A name that folds to a scope and is not one as it is written; `Reported` compares it as it is
written. -/
def WrittenInUpperCase (U : Unicode) (username : String) : Prop :=
  (U.toLowercase username = "channel" ∨ U.toLowercase username = "here") ∧
    username ≠ "channel" ∧ username ≠ "here"

instance : DecidablePred (WrittenInUpperCase U) :=
  fun _ => inferInstanceAs (Decidable (_ ∧ _))

/-- The list of a text: in strict order, of names that are not empty, without the actor, and without
the scopes, whichever token has one. -/
structure MentionsOk (U : Unicode) (text actorUsername : String) : Prop where
  strict : (extractMentionedUsernames U text actorUsername).Pairwise (· < ·)
  nonempty : "" ∉ extractMentionedUsernames U text actorUsername
  actor : U.toLowercase actorUsername ∉ extractMentionedUsernames U text actorUsername
  channel : "channel" ∉ extractMentionedUsernames U text actorUsername
  here : "here" ∉ extractMentionedUsernames U text actorUsername
  scope : ∀ token ∈ splitWhitespace text, (scopeOf U token).isSome →
    ∀ username, mentionToken token = some username →
      U.toLowercase username ∉ extractMentionedUsernames U text actorUsername

/-- A scope is in the list exactly if a name that is written otherwise folds to it. -/
lemma scope_mem_iff : ("channel" ∈ extractMentionedUsernames U text actorUsername ∨
      "here" ∈ extractMentionedUsernames U text actorUsername) ↔
    ∃ username ∈ mentioned text,
      WrittenInUpperCase U username ∧ Reported U actorUsername username := by
  simp only [mem_extractMentionedUsernames]
  constructor
  · rintro (⟨username, hmem, hreported, heq⟩ | ⟨username, hmem, hreported, heq⟩)
    · exact ⟨username, hmem, ⟨.inl heq, hreported.2.2.1, hreported.2.2.2.1⟩, hreported⟩
    · exact ⟨username, hmem, ⟨.inr heq, hreported.2.2.1, hreported.2.2.2.1⟩, hreported⟩
  · rintro ⟨username, hmem, ⟨heq | heq, -, -⟩, hreported⟩
    · exact .inl ⟨username, hmem, hreported, heq⟩
    · exact .inr ⟨username, hmem, hreported, heq⟩

/-- **Mentions against scopes**: the list is as it should be exactly if no name of the text folds to
a scope that it does not spell, other than one that is not reported anyway: an empty one, one of
more than 64 bytes, or the actor's. -/
theorem mentionsOk_iff (U : Unicode) (hempty : ∀ s, U.toLowercase s = "" → s = "")
    (text actorUsername : String) :
    MentionsOk U text actorUsername ↔
      ∀ username ∈ mentioned text, WrittenInUpperCase U username →
        username = "" ∨ 64 < username.utf8ByteSize ∨
          U.toLowercase username = U.toLowercase actorUsername := by
  have hcases : ∀ username, WrittenInUpperCase U username →
      (¬ Reported U actorUsername username ↔ username = "" ∨ 64 < username.utf8ByteSize ∨
        U.toLowercase username = U.toLowercase actorUsername) := by
    rintro username ⟨-, hchannel, hhere⟩
    simp only [Reported, hchannel, hhere, ne_eq, not_false_eq_true, true_and, not_and_or, not_not,
      not_le]
  constructor
  · intro h username hmem hupper
    refine (hcases username hupper).mp fun hreported => ?_
    rcases scope_mem_iff.mpr ⟨username, hmem, hupper, hreported⟩ with hchannel | hhere
    · exact h.channel hchannel
    · exact h.here hhere
  · intro h
    have hnone : ¬ ("channel" ∈ extractMentionedUsernames U text actorUsername ∨
        "here" ∈ extractMentionedUsernames U text actorUsername) := by
      rw [scope_mem_iff]
      rintro ⟨username, hmem, hupper, hreported⟩
      exact (hcases username hupper).mpr (h username hmem hupper) hreported
    rw [not_or] at hnone
    refine ⟨extractMentionedUsernames_pairwise, ?_, actor_not_mem_extractMentionedUsernames,
      hnone.1, hnone.2, ?_⟩
    · rw [mem_extractMentionedUsernames]
      rintro ⟨username, -, ⟨hne, -⟩, heq⟩
      exact hne (hempty username heq)
    · intro token _ hscope username husername hmem
      obtain ⟨username', husername', heq⟩ := scopeOf_isSome.mp hscope
      obtain rfl : username' = username := Option.some.inj (husername'.symm.trans husername)
      rcases heq with heq | heq
      · exact hnone.1 (heq ▸ hmem)
      · exact hnone.2 (heq ▸ hmem)

/-- The ASCII table folds only the empty string to the empty string. -/
lemma toLowercase_ascii_eq_empty (s : String) (h : Unicode.ascii.toLowercase s = "") : s = "" := by
  have hlist := congrArg String.toList h
  simpa [Unicode.ascii] using hlist

/-- A text with a scope in lower case and a name. -/
theorem mentionsOk_lower : MentionsOk .ascii "hello @channel @here @Alice" "author" :=
  (mentionsOk_iff .ascii toLowercase_ascii_eq_empty _ _).mpr (by decide +kernel)

/-- `@Channel` is a scope and is reported as a name too. -/
theorem mentions_upper : ¬ MentionsOk .ascii "@Channel" "author" ∧
    mentionScope .ascii "@Channel" = some .channel ∧
    extractMentionedUsernames .ascii "@Channel" "author" = ["channel"] :=
  ⟨fun h => absurd h.channel (by decide +kernel), by decide +kernel, by decide +kernel⟩

end Vussa
