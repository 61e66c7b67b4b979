import Vussa.Accounts.UserList
import Vussa.History.Paging
import Vussa.Messages.Redaction

/-!
A search, page by page (`search_messages` in `api/discovery.rs`). A caller takes `next` of the last
answer as the cursor of the next call. Terms are texts that a statement can have as a parameter: on a
term with U+0000 PostgreSQL refuses the query, and no page is answered.

* `SearchHit`: the visible messages that match;
* `MessageSearchQuery.behind`: the query with a cursor;
* `enumerates_pages`: **a walk through the pages of a search or of the user list visits every match
  once, in the order of the keys, and ends**.
-/

namespace Vussa

open Pages Timeline

/-- The query for the messages behind a cursor. -/
def MessageSearchQuery.behind (query : MessageSearchQuery) (cursor : Option (Millis × Uuid)) :
    MessageSearchQuery :=
  { query with
    beforeCreatedAt := cursor.map fun c => ((c.1 : ℕ) : ℤ)
    beforeId := cursor.map Prod.snd }

/-- The answer as a page. -/
def SearchPage.page (p : SearchPage) : Pages.Page MessageSearchResult (Millis × Uuid) :=
  ⟨p.items, p.next⟩

/-- A search result. -/
def searchResult (P : TextSearch) (db : Database) (term : String) (m : MessageRow)
    (c : ChannelRow) : MessageSearchResult :=
  { message := db.rawView c.name m, snippet := m.text, highlighted := P.headline m.text term }

/-- The messages a search finds: not deleted, in a channel the user sees that is neither deleted nor
archived, within the filters of the query, with a text that matches. -/
def SearchHit (P : TextSearch) (db : Database) (now : Millis) (userId : Uuid)
    (query : MessageSearchQuery) (item : MessageSearchResult) : Prop :=
  ∃ m ∈ db.messages, m.deletedAt = none ∧ (∀ t ∈ query.fromCreatedAt, t ≤ ((m.createdAt : ℕ) : ℤ)) ∧
    (∀ t ∈ query.toCreatedAt, ((m.createdAt : ℕ) : ℤ) ≤ t) ∧
      P.matching m.text (trim (query.q.getD "")) ∧
        ∃ c ∈ db.channels, c.id = m.channelId ∧ c.archivedAt = none ∧ c.Readable db now userId ∧
          (∀ name ∈ query.channel, c.name = name) ∧
            item = searchResult P db (trim (query.q.getD "")) m c

/-- The position of a result, from the newest to the oldest. -/
def MessageSearchResult.position (item : MessageSearchResult) : Stampᵒᵈ :=
  OrderDual.toDual item.message.stamp

/-- The position a cursor names. -/
def cursorPosition (c : Millis × Uuid) : Stampᵒᵈ := OrderDual.toDual (stamp c.1 c.2)

/-! ### The rows -/

/-- The position of a joined row. -/
def rowPosition (r : MessageRow × ChannelRow) : Stampᵒᵈ := OrderDual.toDual r.1.stamp

section Rows

variable {P : TextSearch} {db : Database} {now : Millis} {userId : Uuid} {term : String}
  {query : MessageSearchQuery}

lemma mem_searchRows {r : MessageRow × ChannelRow} (hwf : db.WellFormed) :
    r ∈ searchRows P db now userId term query ↔
      r.1 ∈ db.messages ∧ r.1.deletedAt = none ∧
        (∀ t ∈ query.fromCreatedAt, t ≤ ((r.1.createdAt : ℕ) : ℤ)) ∧
        (∀ t ∈ query.toCreatedAt, ((r.1.createdAt : ℕ) : ℤ) ≤ t) ∧
        r.1.SearchBefore query.beforeCreatedAt query.beforeId ∧ P.matching r.1.text term ∧
        r.2 ∈ db.channels ∧ r.2.id = r.1.channelId ∧ r.2.archivedAt = none ∧
        r.2.Readable db now userId ∧ ∀ name ∈ query.channel, r.2.name = name := by
  obtain ⟨m, c⟩ := r
  constructor
  · intro h
    obtain ⟨m', hm, hjoin⟩ := List.mem_filterMap.mp h
    split at hjoin
    · rename_i hrow
      obtain ⟨c', hc, hpair⟩ := Option.map_eq_some_iff.mp hjoin
      obtain ⟨rfl, rfl⟩ := Prod.mk.inj hpair
      obtain ⟨hdeleted, hfrom, hto, hbefore, hmatch⟩ := hrow
      have hwhere := List.find?_some hc
      exact ⟨hm, hdeleted, hfrom, hto, hbefore, hmatch, List.mem_of_find?_eq_some hc,
        of_decide_eq_true hwhere⟩
    · exact absurd hjoin (by simp)
  · rintro ⟨hm, hdeleted, hfrom, hto, hbefore, hmatch, hc, hwhere⟩
    refine List.mem_filterMap.mpr ⟨m, hm, ?_⟩
    rw [if_pos ⟨hdeleted, hfrom, hto, hbefore, hmatch⟩]
    -- the primary key of `channels` leaves one channel to join
    have hfind : (db.channels.find? fun c => c.id = m.channelId ∧ c.archivedAt = none ∧
        c.Readable db now userId ∧ ∀ name ∈ query.channel, c.name = name) = some c := by
      cases hfound : db.channels.find? fun c => c.id = m.channelId ∧ c.archivedAt = none ∧
          c.Readable db now userId ∧ ∀ name ∈ query.channel, c.name = name with
      | none => exact absurd (decide_eq_true hwhere) (List.find?_eq_none.mp hfound c hc)
      | some c' =>
          have hwhere' := List.find?_some hfound
          rw [List.inj_on_of_nodup_map hwf.channelId (List.mem_of_find?_eq_some hfound) hc
            ((of_decide_eq_true hwhere').1.trans hwhere.1.symm)]
    rw [hfind, Option.map_some]

/-- A row is found in one channel. -/
lemma searchRows_keyed (hwf : db.WellFormed) :
    Keyed rowPosition (searchRows P db now userId term query) := by
  refine List.pairwise_map.mpr (List.pairwise_filterMap.mpr ?_)
  have hkeyed : db.messages.Pairwise fun a b => a.stamp ≠ b.stamp :=
    List.pairwise_map.mp hwf.keyed
  refine hkeyed.imp fun {m m'} hne r hr r' hr' heq => hne ?_
  have hfst : r.1 = m := by
    split at hr
    · obtain ⟨c, -, rfl⟩ := Option.map_eq_some_iff.mp hr
      rfl
    · exact absurd hr (by simp)
  have hfst' : r'.1 = m' := by
    split at hr'
    · obtain ⟨c, -, rfl⟩ := Option.map_eq_some_iff.mp hr'
      rfl
    · exact absurd hr' (by simp)
  rw [← hfst, ← hfst']
  exact OrderDual.toDual.injective heq

/-- The results of a search, in its order. -/
def searchResults (P : TextSearch) (db : Database) (now : Millis) (userId : Uuid)
    (query : MessageSearchQuery) : List MessageSearchResult :=
  (chron rowPosition (searchRows P db now userId (trim (query.q.getD "")) query)).map
    fun r => searchResult P db (trim (query.q.getD "")) r.1 r.2

lemma searchResults_chron (hwf : db.WellFormed) :
    Chron MessageSearchResult.position (searchResults P db now userId query) :=
  List.pairwise_map.mpr (chron_chron (searchRows_keyed hwf))

lemma mem_searchResults (hwf : db.WellFormed) {item : MessageSearchResult} :
    item ∈ searchResults P db now userId (query.behind none) ↔
      SearchHit P db now userId query item := by
  constructor
  · intro h
    obtain ⟨r, hr, rfl⟩ := List.mem_map.mp h
    obtain ⟨hm, hdeleted, hfrom, hto, -, hmatch, hc, hid, harchived, hreadable, hname⟩ :=
      (mem_searchRows hwf).mp (mem_chron.mp hr)
    exact ⟨r.1, hm, hdeleted, hfrom, hto, hmatch, r.2, hc, hid, harchived, hreadable, hname, rfl⟩
  · rintro ⟨m, hm, hdeleted, hfrom, hto, hmatch, c, hc, hid, harchived, hreadable, hname, rfl⟩
    exact List.mem_map.mpr ⟨(m, c), mem_chron.mpr ((mem_searchRows hwf).mpr
      ⟨hm, hdeleted, hfrom, hto, trivial, hmatch, hc, hid, harchived, hreadable, hname⟩), rfl⟩

/-- The rows behind a cursor. -/
lemma chron_searchRows (hwf : db.WellFormed) (cursor : Option (Millis × Uuid)) :
    chron rowPosition (searchRows P db now userId term (query.behind cursor)) =
      (chron rowPosition (searchRows P db now userId term (query.behind none))).filter
        fun r => ∀ k ∈ cursor, cursorPosition k < rowPosition r := by
  refine (chron_chron (searchRows_keyed hwf)).ext
    ((chron_chron (searchRows_keyed hwf)).sublist List.filter_sublist) fun r => ?_
  have hbefore : r.1.SearchBefore (query.behind cursor).beforeCreatedAt
      (query.behind cursor).beforeId ↔ ∀ k ∈ cursor, cursorPosition k < rowPosition r := by
    cases cursor with
    | none => exact ⟨fun _ => nofun, fun _ => trivial⟩
    | some k => exact ⟨fun h _ hk => Option.some.inj hk ▸ h, fun h => h k rfl⟩
  rw [List.mem_filter, mem_chron, mem_chron, mem_searchRows hwf, mem_searchRows hwf, hbefore,
    decide_eq_true_eq]
  constructor
  · rintro ⟨hm, hdeleted, hfrom, hto, hafter, hrest⟩
    exact ⟨⟨hm, hdeleted, hfrom, hto, trivial, hrest⟩, hafter⟩
  · rintro ⟨⟨hm, hdeleted, hfrom, hto, -, hrest⟩, hafter⟩
    exact ⟨hm, hdeleted, hfrom, hto, hafter, hrest⟩

lemma position_searchResult (term : String) (r : MessageRow × ChannelRow) :
    cursorPosition ((searchResult P db term r.1 r.2).message.createdAt,
      (searchResult P db term r.1 r.2).message.id) = rowPosition r :=
  rfl

/-- The results behind a cursor. -/
lemma searchResults_behind (hwf : db.WellFormed) (cursor : Option (Millis × Uuid)) :
    searchResults P db now userId (query.behind cursor) =
      rest cursorPosition (fun item => (item.message.createdAt, item.message.id)) cursor
        (searchResults P db now userId (query.behind none)) := by
  rw [rest, searchResults, searchResults, List.filter_map]
  simp only [Function.comp_def, position_searchResult]
  rw [chron_searchRows hwf]
  exact congrArg (List.map _) (List.filter_congr fun r _ => decide_eq_decide.mpr Iff.rfl)

/-- A call answers a page of the results behind its cursor. -/
lemma searchMessages_page (hwf : db.WellFormed) (hterm : trim (query.q.getD "") ≠ "")
    (hlen : (trim (query.q.getD "")).utf8ByteSize ≤ 200) (cursor : Option (Millis × Uuid)) :
    (searchMessages P db now userId (query.behind cursor)).page =
      page (fun item => (item.message.createdAt, item.message.id)) (searchLimit query.limit)
        (rest cursorPosition (fun item => (item.message.createdAt, item.message.id)) cursor
          (searchResults P db now userId (query.behind none))) := by
  have hvalid : ¬ (trim ((query.behind cursor).q.getD "") = "" ∨
      200 < (trim ((query.behind cursor).q.getD "")).utf8ByteSize) :=
    not_or.mpr ⟨hterm, not_lt.mpr hlen⟩
  rw [← searchResults_behind hwf cursor, searchMessages]
  dsimp only
  rw [if_neg hvalid, page, searchResults, ← List.map_take (i := searchLimit query.limit + 1),
    List.length_map]
  rfl

end Rows

/-! ### The walk -/

/-- **Every walk through the pages**, of a search for a term of 1 to 200 bytes (without U+0000, on which
every call of the walk is an error) and of the user list, ends and visits every match once, in the
strict order of the keys, on full pages but for the last. -/
theorem enumerates_pages (P : TextSearch) {db : Database} (hwf : db.WellFormed) (now : Millis)
    (userId : Uuid) (query : MessageSearchQuery)
    (hterm : 1 ≤ (trim (query.q.getD "")).utf8ByteSize)
    (hlen : (trim (query.q.getD "")).utf8ByteSize ≤ 200)
    (like : String → String → Bool) {t : Accounts.Tables}
    (hkey : (t.users.map Accounts.Account.id).Nodup) {caller : AuthUser}
    (hperm : .usersRead ∈ caller.permissions) (users : Accounts.UserListQuery) :
    Enumerates
      (fun cursor => (.ok (searchMessages P db now userId (query.behind cursor)).page :
        Except AppError (Pages.Page MessageSearchResult (Millis × Uuid))))
      (searchLimit query.limit) MessageSearchResult.position (SearchHit P db now userId query) ∧
    Enumerates (fun after => Accounts.adminUsers like t caller { users with after := after })
      (Accounts.userLimit users.limit) (fun view => view.user.id)
      (Accounts.Listed like t (users.q.getD "")) := by
  refine ⟨?_, Accounts.adminUsers_enumerates hkey hperm users⟩
  have hlimit : 0 < searchLimit query.limit := by
    rw [searchLimit]
    omega
  have hne : trim (query.q.getD "") ≠ "" := by
    intro h
    rw [h] at hterm
    exact absurd hterm (by decide)
  exact (enumerates_of_page cursorPosition
    (fun item : MessageSearchResult => (item.message.createdAt, item.message.id)) hlimit
      (searchResults_chron hwf) fun cursor =>
        congrArg Except.ok (searchMessages_page hwf hne hlen cursor)).congr
          fun _ => mem_searchResults hwf

/-- Two messages of one millisecond. -/
def greetings : Database where
  channels := [{ id := 1, name := mainChannel, createdAt := 0 }]
  messages := [{ id := 5, channelId := 1, username := "ada", text := "hello", createdAt := 7,
                 ownerSession := 9 },
               { id := 6, channelId := 1, username := "bob", text := "hello", createdAt := 7,
                 ownerSession := 9 }]

/-- A search for both of them and a list of one user, with pages of one item. -/
theorem enumerates_greetings :
    let P : TextSearch := ⟨fun _ _ => true, fun _ term => "<mark>" ++ term ++ "</mark>"⟩
    let query : MessageSearchQuery := { q := some " hello ", limit := some 1 }
    let t : Accounts.Tables :=
      { users := [{ id := 2, email := "ada@x", username := "ada", passwordHash := "",
                    createdAt := 0, updatedAt := 0 }] }
    let caller : AuthUser :=
      { id := 2, email := "ada@x", username := "ada", roles := [], permissions := [.usersRead] }
    Enumerates
      (fun cursor => (.ok (searchMessages P greetings 10 2 (query.behind cursor)).page :
        Except AppError (Pages.Page MessageSearchResult (Millis × Uuid))))
      (searchLimit query.limit) MessageSearchResult.position (SearchHit P greetings 10 2 query) ∧
    Enumerates
      (fun after => Accounts.adminUsers (fun _ _ => true) t caller
        { limit := some 0, after := after })
      (Accounts.userLimit (some 0)) (fun view => view.user.id)
      (Accounts.Listed (fun _ _ => true) t "") := by
  intro P query t caller
  exact enumerates_pages P ⟨by decide, by decide, by decide⟩ 10 2 query (by decide) (by decide)
    (fun _ _ => true) (by decide) (by decide) { limit := some 0 }

end Vussa
