import MailFilters.Proofs.Account.Growth

/-!
# What label directories do

One specification for each activity of a directory; what else is known of them follows from it.

* **`Did`** — what an activity did that was to make labels of some names: its requests and the
  labels that it made.
* **`Makes`** — an activity does so, and leaves a postcondition behind if it succeeds; such
  activities can be put together (`Makes.bind`).
* **`Works`** — an activity makes labels of some names or other (`Works.bind`).
* **`find_makes`**, **`acquire_makes`** — looking up a path makes no label, and ensuring one makes
  those that are missing.
-/

namespace MailFilters

/-! ## Activities -/

/-- What an activity did that was to make labels of some names.  It made progress by requests for
labels, and failed exactly with a request of its own.  It asked for no other labels, and made the
first ones of them, or all if it succeeded. -/
structure Did (mode : Mode) (tell : Fault → ε) (names : List String) (before : Session)
    (result : Except ε α × Session) (calls : List Call) (made : List String) : Prop where
  progress : Progress mode before result.2 calls
  answers : before.account.Answers calls tell result.1
  forLabels : ∀ call ∈ calls, call.IsForLabels
  asked : ∀ name, .createLabel name ∈ calls → name ∈ names
  gains : Gains mode before result.2 made
  part : made <+: names
  whole : ∀ value, result.1 = .ok value → made = names

/-- An activity that is to make labels of some names does so, and leaves a postcondition behind if
it succeeds. -/
def Makes (mode : Mode) (tell : Fault → ε) (names : List String) (before : Session)
    (result : Except ε α × Session) (post : α → Session → Prop) : Prop :=
  ∃ calls made, Did mode tell names before result calls made ∧
    ∀ value, result.1 = .ok value → post value result.2

/-- An activity that may make labels leaves a postcondition behind if it succeeds. -/
def Works (mode : Mode) (tell : Fault → ε) (before : Session) (result : Except ε α × Session)
    (post : α → Session → Prop) : Prop :=
  ∃ names, Makes mode tell names before result post

section Activities

variable {mode : Mode} {tell : Fault → ε} {before : Session} {names xs ys : List String}

/-- Nothing was done. -/
theorem Did.idle (value : α) : Did mode tell [] before (.ok value, before) [] [] where
  progress := .refl before
  answers := trivial
  forLabels := by simp
  asked := by simp
  gains := .refl before
  part := List.prefix_rfl
  whole _ _ := rfl

/-- A line of the log was written that announces nothing. -/
theorem Did.noted {text : String} (unmarked : Unmarked text) (level : LogLevel) (value : α) :
    Did mode tell [] before
      (.ok value, { before with log := before.log ++ [⟨level, text⟩] }) [] [] where
  progress := .idle rfl rfl
  answers := trivial
  forLabels := by simp
  asked := by simp
  gains := .noted unmarked level before
  part := List.prefix_rfl
  whole _ _ := rfl

/-- A single request for labels was made in vain. -/
theorem Did.refused {call : Call} {after : Session} {fault : Fault}
    (failed : before.account.faultOf call = some fault) (forLabels : call.IsForLabels)
    (asked : ∀ name, call = .createLabel name → name ∈ names)
    (progress : Progress mode before after [call]) (gains : Gains mode before after []) :
    Did mode id names before ((.error fault, after) : Except Fault α × Session) [call] [] where
  progress := progress
  answers := ⟨fault, rfl, .single failed⟩
  forLabels := by simpa using forLabels
  asked name member := asked name (List.mem_singleton.mp member).symm
  gains := gains
  part := List.nil_prefix
  whole := by simp

/-- A single request for labels succeeded. -/
theorem Did.granted {call : Call} {after : Session} (granted : before.account.faultOf call = none)
    (forLabels : call.IsForLabels) (asked : ∀ name, call = .createLabel name → name ∈ names)
    (progress : Progress mode before after [call]) (gains : Gains mode before after names)
    (value : α) : Did mode tell names before (.ok value, after) [call] names where
  progress := progress
  answers := ⟨granted, trivial⟩
  forLabels := by simpa using forLabels
  asked name member := asked name (List.mem_singleton.mp member).symm
  gains := gains
  part := List.prefix_rfl
  whole _ _ := rfl

/-- What was done behind an activity that succeeded. -/
theorem Did.append {value : α} {middle : Session} {result : Except ε β × Session}
    {calls more : List Call} {made made' : List String}
    (front : Did mode tell xs before (.ok value, middle) calls made)
    (back : Did mode tell ys middle result more made') :
    Did mode tell (xs ++ ys) before result (calls ++ more) (made ++ made') := by
  obtain rfl := front.whole value rfl
  have replay : middle.account = before.account.afterAll calls := front.progress.replay
  refine
    { progress := front.progress.trans back.progress
      answers := .append front.answers (replay ▸ back.answers)
      forLabels := List.forall_mem_append.mpr ⟨front.forLabels, back.forLabels⟩
      asked := ?_
      gains := front.gains.trans back.gains
      part := (List.prefix_append_right_inj made).mpr back.part
      whole := fun value succeeded => by rw [back.whole value succeeded] }
  intro name member
  rcases List.mem_append.mp member with earlier | later
  · exact List.mem_append_left _ (front.asked name earlier)
  · exact List.mem_append_right _ (back.asked name later)

/-- What was done in vain leaves everything undone that was to follow. -/
theorem Did.failed {cause : ε} {after : Session} {calls : List Call} {made : List String}
    (front : Did mode tell xs before ((.error cause, after) : Except ε α × Session) calls made)
    (ys : List String) :
    Did mode tell (xs ++ ys) before ((.error cause, after) : Except ε β × Session) calls made where
  progress := front.progress
  answers := front.answers
  forLabels := front.forLabels
  asked name member := List.mem_append_left _ (front.asked name member)
  gains := front.gains
  part := front.part.trans (List.prefix_append xs ys)
  whole := by simp

namespace Makes

theorem done {value : α} {post : α → Session → Prop} (holds : post value before) :
    Makes mode tell [] before (.ok value, before) post :=
  ⟨[], [], .idle value, by rintro value ⟨⟩; exact holds⟩

theorem leaves {result : Except ε α × Session} {value : α} {after : Session}
    {post : α → Session → Prop} (makes : Makes mode tell names before result post)
    (ran : result = (.ok value, after)) : post value after := by
  obtain ⟨_, _, _, leaves⟩ := makes
  subst ran
  exact leaves value rfl

/-- One activity behind another one. -/
theorem bind {first : Task ε α} {next : α → Task ε β} {middle : α → Session → Prop}
    {post : β → Session → Prop} (front : Makes mode tell xs before (first before) middle)
    (back : ∀ value session, first before = (.ok value, session) → middle value session →
      Gains mode before session xs → Makes mode tell ys session (next value session) post) :
    Makes mode tell (xs ++ ys) before ((first >>= next) before) post := by
  obtain ⟨calls, made, did, leaves⟩ := front
  cases ran : first before with
  | mk outcome session =>
      rw [ran] at did leaves
      cases outcome with
      | error cause =>
          rw [Task.bind_of_error ran]
          exact ⟨calls, made, did.failed ys, by simp⟩
      | ok value =>
          rw [Task.bind_of_ok ran]
          obtain ⟨more, made', did', leaves'⟩ :=
            back value session ran (leaves value rfl) (did.whole value rfl ▸ did.gains)
          exact ⟨calls ++ more, made ++ made', did.append did', leaves'⟩

/-- The postcondition may speak of the labels that were made. -/
theorem withGains {result : Except ε α × Session} {post : α → Session → Prop}
    (makes : Makes mode tell names before result post) :
    Makes mode tell names before result fun value after =>
      post value after ∧ Gains mode before after names := by
  obtain ⟨calls, made, did, leaves⟩ := makes
  exact ⟨calls, made, did,
    fun value succeeded => ⟨leaves value succeeded, did.whole value succeeded ▸ did.gains⟩⟩

theorem imp {result : Except ε α × Session} {strong weak : α → Session → Prop}
    (makes : Makes mode tell names before result strong)
    (weaken : ∀ value session, strong value session → weak value session) :
    Makes mode tell names before result weak := by
  obtain ⟨calls, made, did, leaves⟩ := makes
  exact ⟨calls, made, did, fun value succeeded => weaken _ _ (leaves value succeeded)⟩

/-- The failures of an activity may be told in another way. -/
theorem mapFailure {task : Task Fault α} {post : α → Session → Prop}
    (makes : Makes mode id names before (task before) post) :
    Makes mode tell names before (task.mapFailure tell before) post := by
  obtain ⟨calls, made, did, leaves⟩ := makes
  rw [Task.mapFailure, Task.conclude]
  cases ran : task before with
  | mk outcome session =>
      rw [ran] at did leaves
      cases outcome with
      | ok value =>
          refine ⟨calls, made, { did with whole := fun _ _ => did.whole value rfl }, ?_⟩
          rintro result ⟨⟩
          exact leaves value rfl
      | error cause =>
          obtain ⟨fault, rfl, refused⟩ := did.answers
          refine ⟨calls, made, { did with answers := ⟨cause, rfl, refused⟩, whole := ?_ }, ?_⟩
          · simp [Task.fail]
          · simp [Task.fail]

theorem works {result : Except ε α × Session} {post : α → Session → Prop}
    (makes : Makes mode tell names before result post) : Works mode tell before result post :=
  ⟨names, makes⟩

end Makes

namespace Works

theorem done {value : α} {post : α → Session → Prop} (holds : post value before) :
    Works mode tell before (.ok value, before) post := ⟨[], .done holds⟩

/-- One activity behind another one. -/
theorem bind {first : Task ε α} {next : α → Task ε β} {middle : α → Session → Prop}
    {post : β → Session → Prop} (front : Works mode tell before (first before) middle)
    (back : ∀ value session, middle value session →
      Works mode tell session (next value session) post) :
    Works mode tell before ((first >>= next) before) post := by
  obtain ⟨xs, makes⟩ := front
  cases ran : first before with
  | mk outcome session =>
      cases outcome with
      | error cause =>
          refine ⟨xs ++ [], makes.bind fun value _ succeeded => ?_⟩
          simp [ran] at succeeded
      | ok value =>
          obtain ⟨ys, others⟩ := back value session (makes.leaves ran)
          refine ⟨xs ++ ys, makes.bind fun value session succeeded _ _ => ?_⟩
          obtain ⟨rfl, rfl⟩ : _ = value ∧ _ = session := by simpa [ran] using succeeded
          exact others

/-- The postcondition may speak of the progress that was made and of the labels. -/
theorem withProgress {result : Except ε α × Session} {post : α → Session → Prop}
    (works : Works mode tell before result post) :
    Works mode tell before result fun value after =>
      post value after ∧ (∃ calls, Progress mode before after calls) ∧
        ∃ made, Gains mode before after made := by
  obtain ⟨names, calls, made, did, leaves⟩ := works
  exact ⟨names, calls, made, did,
    fun value succeeded => ⟨leaves value succeeded, ⟨calls, did.progress⟩, made, did.gains⟩⟩

theorem imp {result : Except ε α × Session} {strong weak : α → Session → Prop}
    (works : Works mode tell before result strong)
    (weaken : ∀ value session, strong value session → weak value session) :
    Works mode tell before result weak := by
  obtain ⟨names, makes⟩ := works
  exact ⟨names, makes.imp weaken⟩

theorem mapFailure {task : Task Fault α} {post : α → Session → Prop}
    (works : Works mode id before (task before) post) :
    Works mode tell before (task.mapFailure tell before) post := by
  obtain ⟨names, makes⟩ := works
  exact ⟨names, makes.mapFailure⟩

end Works

end Activities

namespace Directory

/-! ## The list of labels -/

section Labels

variable {mode : Mode} {session : Session}

theorem labels_known {known : List Label} (knows : session.known mode = some known) :
    labels mode session = (.ok known, session) := by
  simp [labels, bind, pure, Task.andThen, Task.look, Task.done, knows]

theorem labels_refused {fault : Fault} (unknown : session.known mode = none)
    (failed : session.account.faultOf .listLabels = some fault) :
    ∃ log, session.log.Announces log [] ∧ labels mode session =
      (.error fault, { session with account := session.account.after .listLabels, log }) := by
  have answer := session.account.listLabels_fst
  rw [failed] at answer
  refine ⟨session.log ++ [⟨.error, "Not able to fetch labels: " ++ fault.text⟩],
    .unmarked (by simp [Unmarked]) _ _, ?_⟩
  simp [labels, bind, Task.andThen, Task.look, unknown, Task.requestOrNote, Task.conclude,
    Task.request, answer, Task.note, Task.change, Task.fail, Account.after]

theorem labels_listed (unknown : session.known mode = none)
    (granted : session.account.faultOf .listLabels = none) :
    labels mode session =
      (.ok session.account.labels,
        { session with account := session.account.after .listLabels }.setKnown
          session.account.labels mode) := by
  have answer := session.account.listLabels_fst
  rw [granted] at answer
  simp [labels, bind, pure, Task.andThen, Task.look, unknown, Task.requestOrNote,
    Task.conclude, Task.request, answer, Task.change, Task.done, Account.after]

/-- Getting the labels makes none. -/
theorem labels_makes (mode : Mode) (session : Session) :
    Makes mode id [] session (labels mode session) fun known after =>
      after.known mode = some known := by
  cases knows : session.known mode with
  | some known =>
      rw [labels_known knows]
      exact .done knows
  | none =>
      cases scripted : session.account.faultOf .listLabels with
      | some fault =>
          obtain ⟨log, announces, equal⟩ := labels_refused knows scripted
          rw [equal]
          refine ⟨_, _, .refused scripted trivial (by simp) (.refused scripted rfl rfl knows)
            (.idle (by cases mode <;> rfl) ?_ fun _ => announces), by simp⟩
          exact (Account.after_labels ..).trans (List.append_nil _)
      | none =>
          rw [labels_listed knows scripted]
          refine ⟨_, _, .granted scripted trivial (by simp) (.listed (by simp) knows (by simp) ?_)
            (.listed knows (by simp) (by cases mode <;> rfl)) _, ?_⟩
          · intro other different
            exact Session.known_setKnown_of_ne _ _ different
          · rintro known ⟨⟩
            simp

end Labels

/-! ## Looking up and creating -/

theorem find_known {mode : Mode} {session : Session} {known : List Label}
    (knows : session.known mode = some known) (path : String) (caseSensitive : Bool) :
    find mode path caseSensitive session = (.ok (search path caseSensitive known), session) := by
  rw [find, Task.bind_of_ok (labels_known knows)]
  rfl

/-- Looking up a path makes no label, and it finds what the directory has. -/
theorem find_makes (mode : Mode) (path : String) (caseSensitive : Bool) (session : Session) :
    Makes mode id [] session (find mode path caseSensitive session) fun found after =>
      (after.known mode).isSome ∧
        found = search path caseSensitive (session.directory mode) := by
  show Makes mode id ([] ++ []) session _ _
  refine (labels_makes mode session).bind fun known after _ knows gains => ?_
  obtain ⟨created, grown, none, _⟩ := gains.grown
  obtain rfl := List.map_eq_nil_iff.mp none
  rw [List.append_nil, Session.directory_of_known knows] at grown
  exact .done ⟨by rw [knows]; rfl, by rw [grown]⟩

theorem create_dry {session : Session} {known : List Label}
    (knows : session.dryLabels = some known) (name : String) :
    create .dry name session =
      (.ok (placeholder name).id,
        { session with
          dryLabels := some (known ++ [placeholder name])
          log := session.log ++ [⟨.info, "Would create label '" ++ name ++ "'"⟩] }) := by
  simp [create, makeLabel, remember, bind, pure, Task.andThen, Task.note, Task.change,
    Task.done, Session.known, Session.setKnown, knows, placeholder]

theorem create_refused {session : Session} {name : String} {fault : Fault}
    (failed : session.account.faultOf (.createLabel name) = some fault) :
    ∃ log, create .real name session =
      (.error fault,
        { session with account := session.account.after (.createLabel name), log }) := by
  have answer := session.account.createLabel_fst name
  rw [failed] at answer
  refine ⟨session.log ++ [⟨.error, "Error creating label " ++ name ++ ": " ++ fault.text⟩], ?_⟩
  simp [create, makeLabel, bind, Task.andThen, Task.requestOrNote, Task.conclude, Task.request,
    answer, Task.note, Task.change, Task.fail, Account.after]

theorem create_granted {session : Session} {known : List Label} {name : String}
    (knows : session.realLabels = some known)
    (granted : session.account.faultOf (.createLabel name) = none) :
    ∃ log, create .real name session =
      (.ok (session.account.nextLabel name).id,
        { session with
          account := session.account.after (.createLabel name)
          realLabels := some (known ++ [session.account.nextLabel name])
          log }) := by
  have answer := session.account.createLabel_fst name
  rw [granted] at answer
  refine ⟨session.log ++ [⟨.info, "Created label '" ++ name ++ "' (" ++
    (session.account.nextLabel name).id ++ ")"⟩], ?_⟩
  simp [create, makeLabel, remember, bind, pure, Task.andThen, Task.requestOrNote, Task.conclude,
    Task.request, answer, Task.note, Task.change, Task.done, Account.after, Session.known,
    Session.setKnown, knows]

/-- The parents of a path are among some labels. -/
def HasParents (labels : List Label) (path : String) : Prop :=
  ∀ parent below, path = parent ++ "/" ++ below →
    ∃ label ∈ labels, Text.sameLetters label.name parent = true

/-- A new label below labels that are there suits an account. -/
theorem HasParents.fits {session : Session} {known : List Label} {name : String}
    (parents : HasParents known name) (knows : session.realLabels = some known)
    (missing : search name false known = none) (coherent : session.Coherent) :
    session.account.Fits (.createLabel name) := by
  rw [Account.Fits, ← coherent known knows]
  exact ⟨search_none missing, parents⟩

/-- A label that is not there and whose parents are is made, unless the request for it fails. -/
theorem create_makes {mode : Mode} {session : Session} {known : List Label} {name : String}
    (knows : session.known mode = some known) (missing : search name false known = none)
    (parents : HasParents known name) :
    Makes mode id [name] session (create mode name session) fun id after =>
      search name false (after.directory mode) = some id := by
  cases mode with
  | dry =>
      rw [create_dry knows]
      refine ⟨[], [name],
        { progress := .announced rfl knows rfl rfl
          answers := trivial
          forLabels := by simp
          asked := by simp
          gains := .added (placeholder name) knows rfl rfl fun _ => .announcement name _ _
          part := List.prefix_rfl
          whole := fun _ _ => rfl }, ?_⟩
      rintro id ⟨⟩
      exact search_new missing (placeholder name) rfl
  | real =>
      have fits := parents.fits knows missing
      have own : ∀ other, Call.createLabel name = .createLabel other → other ∈ [name] := by
        rintro _ ⟨⟩
        exact List.mem_cons_self
      cases scripted : session.account.faultOf (.createLabel name) with
      | some fault =>
          obtain ⟨log, equal⟩ := create_refused scripted
          rw [equal]
          have unmade := Account.newLabels_refused scripted
          have kept : session.realLabels =
              some (known ++ session.account.newLabels (.createLabel name)) := by
            rw [unmade, List.append_nil]
            exact knows
          refine ⟨_, _, .refused scripted trivial own (.asked rfl knows kept rfl fits)
            (.idle rfl ?_ (by simp)), by simp⟩
          exact (Account.after_labels ..).trans (by rw [unmade, List.append_nil])
      | none =>
          obtain ⟨log, equal⟩ := create_granted knows scripted
          rw [equal]
          have made := Account.newLabels_granted scripted
          have progress : Progress .real session
              { session with
                account := session.account.after (.createLabel name)
                realLabels := some (known ++ [session.account.nextLabel name])
                log } [.createLabel name] := .asked rfl knows (by rw [made]) rfl fits
          refine ⟨_, _, .granted scripted trivial own progress
            (.added (session.account.nextLabel name) knows rfl ⟨_, rfl⟩ (by simp)) _, ?_⟩
          rintro id ⟨⟩
          exact search_new missing (session.account.nextLabel name) rfl

/-! ## Ensuring paths -/

/-- Ensuring a single path makes a label if the path is not there. -/
theorem ensure_makes {mode : Mode} {session : Session} (knows : (session.known mode).isSome)
    {path : String} (parents : HasParents (session.directory mode) path) :
    Makes mode id (if isThere path false (session.names mode) then [] else [path]) session
      (ensure mode path session) fun id after =>
        search path false (after.directory mode) = some id := by
  have known := Session.known_directory knows
  rw [ensure, Task.bind_of_ok (find_known known path false), Session.names, ← search_isSome]
  cases found : search path false (session.directory mode) with
  | some id => exact .done found
  | none => exact create_makes known found parents

/-- Ensuring paths that differ in more than letter case makes labels for those that are not there,
and ends with the id of the last one. -/
theorem ensureAll_makes {mode : Mode} {session : Session} (knows : (session.known mode).isSome)
    {paths present : List String}
    (there : ∀ path ∈ present, ∃ id, search path false (session.directory mode) = some id)
    (ordered : ParentsFirst present paths) (apart : (paths.map Text.lowered).Nodup)
    (last : String) :
    Makes mode id (paths.filter fun path => !isThere path false (session.names mode)) session
      (ensureAll mode last paths session) fun id after =>
        ∀ path, paths.getLast? = some path →
          search path false (after.directory mode) = some id := by
  -- `present` are the levels above, which have been ensured
  induction paths generalizing session present last with
  | nil => exact .done (by simp)
  | cons path rest ih =>
      obtain ⟨different, apart⟩ := List.nodup_cons.mp apart
      have parents : HasParents (session.directory mode) path := by
        intro parent below split
        obtain ⟨id, found⟩ := there parent (ordered.1 parent below split)
        obtain ⟨label, member, _, named⟩ := search_some found
        exact ⟨label, member, by simpa [isNamed] using named⟩
      rw [ensureAll, absent_cons]
      refine (ensure_makes knows parents).bind ?_
      intro id middle _ found gains
      rw [← absent_behind different, ← gains.names_eq]
      cases rest with
      | nil =>
          refine .done ?_
          intro final isLast
          obtain rfl : path = final := by simpa using isLast
          exact found
      | cons next rest =>
          have there' : ∀ other ∈ path :: present,
              ∃ id, search other false (middle.directory mode) = some id := by
            obtain ⟨created, grown, _⟩ := gains.grown
            refine List.forall_mem_cons.mpr ⟨⟨id, found⟩, fun other earlier => ?_⟩
            obtain ⟨id', found'⟩ := there other earlier
            exact ⟨id', grown ▸ search_extend found' created⟩
          refine (ih (gains.known knows) there' ordered.2 apart id).imp ?_
          intro id after ensured final isLast
          exact ensured final (by simpa using isLast)

/-- **Ensuring a path.** It makes the labels that are missing, outermost first, and all of them
unless a request fails.  The path gets the id that was found for it before, or the one that is found
then in any letter case. -/
theorem acquire_makes (mode : Mode) (path : String) (caseSensitive : Bool) (session : Session) :
    Makes mode id (missing path caseSensitive (session.names mode)) session
      (acquire mode path caseSensitive session) fun id after =>
        (after.known mode).isSome ∧
          (search path caseSensitive (session.directory mode) = some id ∨
            search path caseSensitive (session.directory mode) = none ∧
              search path false (after.directory mode) = some id) := by
  rw [acquire, ← List.nil_append (missing ..)]
  refine (find_makes mode path caseSensitive session).bind ?_
  rintro found middle _ ⟨knows, rfl⟩ gains
  have same : middle.names mode = session.names mode := by
    rw [gains.names_eq, List.append_nil]
  rw [missing, Session.names, ← search_isSome]
  cases found : search path caseSensitive (session.directory mode) with
  | some id => exact .done ⟨knows, .inl rfl⟩
  | none =>
      rw [← Session.names, ← same]
      refine (ensureAll_makes knows (by simp) (levels_parentsFirst path)
        (levels_apart path) "").withGains.imp ?_
      rintro id after ⟨ensured, grown⟩
      exact ⟨grown.known knows, .inr ⟨rfl, ensured path (levels_getLast? path)⟩⟩

/-- A path that is ensured in any letter case has the id that is found for it then. -/
theorem acquire_works (mode : Mode) (path : String) (session : Session) :
    Works mode id session (acquire mode path false session) fun id after =>
      ∃ labels, after.known mode = some labels ∧ search path false labels = some id := by
  refine ⟨_, (acquire_makes mode path false session).withGains.imp ?_⟩
  rintro id after ⟨⟨knows, answer⟩, gains⟩
  refine ⟨_, Session.known_directory knows, ?_⟩
  rcases answer with before | ⟨_, behind⟩
  · obtain ⟨created, grown, _⟩ := gains.grown
    rw [grown]
    exact search_extend before created
  · exact behind

end Directory

end MailFilters
