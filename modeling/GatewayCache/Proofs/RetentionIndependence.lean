import GatewayCache.Proofs.Parts

/-!
One run under two sets of retention flags. What both keep comes out equal: a category does not
show which others are kept beside it. Channels, thread members and messages need that the flags
agree on what decides whether the current user sees a channel.
-/
namespace GatewayCache.Cache

variable {F₁ F₂ : Retention} {c₁ c₂ : Cache}

/-! ### Parts that change by themselves -/

/-- Two caches agree on what no flags govern and on what changes by itself and both flags keep. -/
structure Alike (F₁ F₂ : Retention) (c₁ c₂ : Cache) : Prop where
  selfUser : c₁.selfUser = c₂.selfUser
  unready : c₁.unready = c₂.unready
  unavailable : c₁.unavailable = c₂.unavailable
  guilds : F₁.keeps .guilds → F₂.keeps .guilds → c₁.guilds = c₂.guilds
  shelves : ∀ k : Shelf, k ≠ .threadMembers → k ≠ .messages →
    F₁.keeps k.category → F₂.keeps k.category → k.store c₁ = k.store c₂

theorem store_empty (F : Retention) (k : Shelf) :
    k.store (empty F) = .empty (F.keeps k.category) := by
  cases k <;> rfl

theorem Alike.empty (F₁ F₂ : Retention) : Alike F₁ F₂ (empty F₁) (empty F₂) where
  selfUser := rfl
  unready := rfl
  unavailable := rfl
  guilds on₁ on₂ := by
    change Store.empty (F₁.keeps .guilds) = Store.empty (F₂.keeps .guilds)
    rw [on₁, on₂]
  shelves k _ _ on₁ on₂ := by rw [store_empty, store_empty, on₁, on₂]

theorem Alike.apply (alike : Alike F₁ F₂ c₁ c₂) (now : Timestamp) (e : Event) :
    Alike F₁ F₂ (c₁.apply now e).1 (c₂.apply now e).1 where
  -- Each of these parts changes by a function of the event and of what it was itself.
  selfUser := by
    rw [fst_apply, fst_apply]
    exact congrArg e.onSelf alike.selfUser
  unready := by
    rw [fst_apply, fst_apply]
    exact congrArg e.onUnready alike.unready
  unavailable := by
    rw [fst_apply, fst_apply]
    exact congrArg e.onUnavailable alike.unavailable
  guilds on₁ on₂ := by
    rw [fst_apply, fst_apply]
    exact congrArg e.onGuilds (alike.guilds on₁ on₂)
  shelves k notThreads notMessages on₁ on₂ := by
    rw [store_apply now c₁ e notThreads notMessages, store_apply now c₂ e notThreads notMessages]
    rw [alike.shelves k notThreads notMessages on₁ on₂]

/-! ### Parts that depend on other parts -/

/-- Two caches agree on what is seen, and on what depends on that and both flags keep. -/
structure AlikeInSight (F₁ F₂ : Retention) (c₁ c₂ : Cache) : Prop extends SameSight c₁ c₂ where
  threadMembers : F₁.keeps .threadMembers → F₂.keeps .threadMembers →
    c₁.threadMembers = c₂.threadMembers
  messages : F₁.keeps .messages → F₂.keeps .messages → c₁.messages = c₂.messages

theorem AlikeInSight.empty (channels : F₁.keeps .channels = F₂.keeps .channels)
    (guilds : F₁.keeps .guilds = F₂.keeps .guilds) (roles : F₁.keeps .roles = F₂.keeps .roles)
    (members : F₁.keeps .members = F₂.keeps .members) :
    AlikeInSight F₁ F₂ (empty F₁) (empty F₂) where
  selfUser := rfl
  channels := congrArg Store.empty channels
  guilds := congrArg Store.empty guilds
  roles := congrArg GroupedStore.empty roles
  members := congrArg GroupedStore.empty members
  threadMembers on₁ on₂ := congrArg GroupedStore.empty (on₁.trans on₂.symm)
  messages on₁ on₂ := congrArg GroupedStore.empty (on₁.trans on₂.symm)

theorem AlikeInSight.apply (alike : AlikeInSight F₁ F₂ c₁ c₂) (now : Timestamp) (e : Event) :
    AlikeInSight F₁ F₂ (c₁.apply now e).1 (c₂.apply now e).1 where
  toSameSight := alike.toSameSight.apply now e
  threadMembers on₁ on₂ := by
    rw [fst_apply, fst_apply]
    exact alike.toSameSight.threadMembersAfter now e (alike.threadMembers on₁ on₂)
  messages on₁ on₂ := by
    rw [fst_apply, fst_apply]
    exact alike.toSameSight.messagesAfter now e (alike.messages on₁ on₂)

/-! ### Runs -/

/-- A relation between two caches that every event keeps is kept by a run. -/
theorem foldl_apply₂ {R : Cache → Cache → Prop} (now : Timestamp)
    (step : ∀ {c₁ c₂ : Cache} (e : Event), R c₁ c₂ → R (c₁.apply now e).1 (c₂.apply now e).1)
    (start : R c₁ c₂) (events : List Event) :
    R (events.foldl (fun c e => (c.apply now e).1) c₁)
      (events.foldl (fun c e => (c.apply now e).1) c₂) := by
  induction events generalizing c₁ c₂ with
  | nil => exact start
  | cons e events ih => exact ih (step e start)

/--
The same events, at whatever times they come, lead under two sets of flags to the same current
user, the same guilds in transition, and the same content of each category that both keep. For
channels, thread members and messages the flags have to agree on channels, guilds, roles and
members.
-/
theorem retention_independent (F₁ F₂ : Retention) (run₁ run₂ : List (Timestamp × Event))
    (same : run₁.map (·.2) = run₂.map (·.2)) :
    let c₁ := (empty F₁).applyAll run₁
    let c₂ := (empty F₂).applyAll run₂
    (c₁.selfUser = c₂.selfUser ∧ c₁.unready = c₂.unready ∧ c₁.unavailable = c₂.unavailable) ∧
      (F₁.keeps .guilds → F₂.keeps .guilds → c₁.guilds = c₂.guilds) ∧
      (∀ k : Shelf, k ≠ .threadMembers → k ≠ .messages →
        F₁.keeps k.category → F₂.keeps k.category → k.store c₁ = k.store c₂) ∧
      ((∀ k : Category, k ∈ [.channels, .guilds, .roles, .members] → F₁.keeps k = F₂.keeps k) →
        c₁.channels = c₂.channels ∧
        (F₁.keeps .threadMembers → F₂.keeps .threadMembers →
          c₁.threadMembers = c₂.threadMembers) ∧
        (F₁.keeps .messages → F₂.keeps .messages → c₁.messages = c₂.messages)) := by
  intro c₁ c₂
  -- Both runs are runs of the same events, all applied at one and the same time.
  have eq₁ : c₁ = _ := applyAll_timeless .epoch (empty F₁) run₁
  have eq₂ : c₂ = _ := applyAll_timeless .epoch (empty F₂) run₂
  rw [← same] at eq₂
  have alike : Alike F₁ F₂ c₁ c₂ := by
    rw [eq₁, eq₂]
    exact foldl_apply₂ .epoch (fun e alike => alike.apply .epoch e) (Alike.empty F₁ F₂) _
  refine ⟨⟨alike.selfUser, alike.unready, alike.unavailable⟩, alike.guilds, alike.shelves, ?_⟩
  intro agree
  have start : AlikeInSight F₁ F₂ (empty F₁) (empty F₂) :=
    .empty (agree .channels (by simp)) (agree .guilds (by simp)) (agree .roles (by simp))
      (agree .members (by simp))
  have inSight : AlikeInSight F₁ F₂ c₁ c₂ := by
    rw [eq₁, eq₂]
    exact foldl_apply₂ .epoch (fun e alike => alike.apply .epoch e) start _
  exact ⟨inSight.channels, inSight.threadMembers, inSight.messages⟩

/-- Two runs at different times, one of which keeps no presences. -/
theorem retention_independent_of_presences :
    let later : Timestamp := ⟨⟨⟨2001, 1, 1⟩, 0, 0, 0, 0⟩, by decide⟩
    let user : User := { id := 2, username := "" }
    let text : Channel := .text { id := 3, guildId := 0, name := "" }
    let events : List Event := [
      .ready { user := { user }, guilds := [⟨1, true⟩], sessionId := "" },
      .guildCreate { guild := { id := 1, name := "", ownerId := 9 }, channels := [text]
                     members := [{ guildId := 0, user }], presences := [⟨2, 0, .idle, []⟩] },
      .messageCreate { id := 4, channelId := 3, author := user, content := "", timestamp := later }]
    let F₁ := Retention.all
    let F₂ : Retention := ⟨F₁.bits &&& ~~~(Retention.only .presences).bits⟩
    let c₁ := (empty F₁).applyAll (events.map (Timestamp.epoch, ·))
    let c₂ := (empty F₂).applyAll (events.map (later, ·))
    F₂.keeps .presences = false ∧ c₁.unready = c₂.unready ∧ c₁.members = c₂.members ∧
      c₁.channels = c₂.channels ∧ c₁.messages = c₂.messages := by
  intro later user text events F₁ F₂ c₁ c₂
  have same : (events.map (Timestamp.epoch, ·)).map (·.2) = (events.map (later, ·)).map (·.2) := by
    rw [List.map_map, List.map_map]
    rfl
  have whole := retention_independent F₁ F₂ _ _ same
  have agree : ∀ k : Category, k ∈ [.channels, .guilds, .roles, .members] →
      F₁.keeps k = F₂.keeps k := by decide
  have inSight := whole.2.2.2 agree
  refine ⟨by decide, whole.1.2.1, ?_, inSight.1, inSight.2.2 (by decide) (by decide)⟩
  exact whole.2.2.1 .members (by decide) (by decide) (by decide) (by decide)

end GatewayCache.Cache
