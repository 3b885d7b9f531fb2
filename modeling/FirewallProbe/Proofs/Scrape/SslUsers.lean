import Mathlib.Algebra.BigOperators.Group.List.Basic
import Mathlib.Algebra.GroupWithZero.Nat
import FirewallProbe.Proofs.Collected
import FirewallProbe.Proofs.Grouping
import FirewallProbe.Proofs.Schema.Contents
import FirewallProbe.Resource.SslVpn

/-!
# Users of the SSL-VPN

The sessions of an envelope are counted by user, and so are their subsessions.  Every session counts
for one user, so the counts of all users add up to the sessions that are listed, in whatever order
they are.  Two endpoints are asked, and if one of them cannot be read nothing is reported.

## Key results

- `SslStats.counts_eq_countAt` / `SslSession.subsessions_eq_itemsAt`: what is read
- `SslVpn.sum_length_sessionsOf` / `sum_tunnelCount_sessionsOf`: the counts add up to the whole
- `SslVpn.userBlocks_eq_of_perm`: the order of the sessions makes no difference
- `SslVpn.value_collect`: what the routine comes to
- `SslVpn.sessions_counted_per_user`: all of this about the routine
-/

namespace FirewallProbe

/-! ## What is read of totals -/

namespace SslCounts

theorem names_nodup : record.names.Nodup := by decide

/-- The number of users stands at its key. -/
theorem users_isShownBy : record.IsShownBy "users" Json.numberOr (·.users) :=
  Record.isShownBy_number names_nodup rfl (fun _ _ => rfl) (by simp [record])

theorem tunnels_isShownBy : record.IsShownBy "tunnels" Json.numberOr (·.tunnels) :=
  Record.isShownBy_number names_nodup rfl (fun _ _ => rfl) (by simp [record])

theorem connections_isShownBy : record.IsShownBy "connections" Json.numberOr (·.connections) :=
  Record.isShownBy_number names_nodup rfl (fun _ _ => rfl) (by simp [record])

end SslCounts

namespace SslStats

theorem names_nodup : record.names.Nodup := by decide

/-- The totals of now stand at their key. -/
theorem current_isShownBy : record.IsShownBy "current" (Decoder.record SslCounts.record)
    fun s => .ok s.current :=
  Record.isShownBy_read names_nodup rfl (fun _ _ => rfl) (by simp [record])

/-- The highest totals stand at their key. -/
theorem highest_isShownBy : record.IsShownBy "max" (Decoder.record SslCounts.record)
    fun s => .ok s.highest :=
  Record.isShownBy_read names_nodup rfl (fun _ _ => rfl) (by simp [record])

/-- The number that the totals at a key have at a key of their own; zero where there is none. -/
def countAt (key name : String) (v : Json) : Float :=
  ((valueAt? key (record.entriesOf v)).map fun counts =>
    Json.numberAt name (SslCounts.record.entriesOf counts)).getD 0.0

/-- `countAt` is the number that is read if all numbers start at zero. -/
private theorem count_eq_countAt {key name : String} {counts : SslStats → SslCounts}
    {count : SslCounts → Float}
    (hcounts : record.IsShownBy key (Decoder.record SslCounts.record) fun s => .ok (counts s))
    (hcount : SslCounts.record.IsShownBy name Json.numberOr count)
    (hzero : count (counts record.blank) = 0.0) (hzero' : count SslCounts.record.blank = 0.0)
    {v : Json} {stats : SslStats} (hread : Decoder.record record v = .ok stats) :
    count (counts stats) = countAt key name v := by
  rcases hcounts.cases_valueAt? names_nodup hread with ⟨w, hvalue, hw⟩ | ⟨hvalue, hblank⟩
  · rw [countAt, hvalue, hcount.numberAt SslCounts.names_nodup hzero' hw]
    rfl
  · rw [countAt, hvalue, hblank, hzero]
    rfl

/-- The numbers that are reported of totals are those that their value has, each by `countAt`. -/
theorem counts_eq_countAt {v : Json} {stats : SslStats}
    (hread : Decoder.record record v = .ok stats) :
    stats.current.users = countAt "current" "users" v ∧
    stats.current.tunnels = countAt "current" "tunnels" v ∧
    stats.current.connections = countAt "current" "connections" v ∧
    stats.highest.users = countAt "max" "users" v :=
  ⟨count_eq_countAt current_isShownBy SslCounts.users_isShownBy rfl rfl hread,
    count_eq_countAt current_isShownBy SslCounts.tunnels_isShownBy rfl rfl hread,
    count_eq_countAt current_isShownBy SslCounts.connections_isShownBy rfl rfl hread,
    count_eq_countAt highest_isShownBy SslCounts.users_isShownBy rfl rfl hread⟩

end SslStats

/-! ## What is read of a session -/

namespace SslSession

theorem names_nodup : record.names.Nodup := by decide

/-- The user of a session is the text at its key. -/
theorem user_isShownBy : record.IsShownBy "user_name" Json.textOr (·.user) :=
  Record.isShownBy_text names_nodup rfl (fun _ _ => rfl) (by simp [record])

theorem subsessions_isShownBy :
    record.IsShownBy "subsessions" (Decoder.list Decoder.any) fun s => .ok s.subsessions :=
  Record.isShownBy_read names_nodup rfl (fun _ _ => rfl) (by simp [record])

/-- A session has the `subsessions` that are listed at their key. -/
theorem subsessions_eq_itemsAt {v : Json} {session : SslSession}
    (hread : Decoder.record record v = .ok session) :
    session.subsessions = Json.itemsAt "subsessions" (record.entriesOf v) := by
  have hitems := subsessions_isShownBy.listAt names_nodup rfl hread
  rw [← List.forall₂_eq_eq_eq]
  exact hitems.flip.imp fun x w hw => (Except.ok.inj hw).symm

end SslSession

namespace SslVpn

open Text (bytesOf)

variable {sessions : List SslSession}

/-! ## Counts of users -/

/-- The sessions of a user. -/
def sessionsOf (sessions : List SslSession) (user : String) : List SslSession :=
  sessions.filter fun x => x.user = user

/-- The number of subsessions of all sessions. -/
def tunnelCount (sessions : List SslSession) : Nat :=
  (sessions.map (·.subsessions.length)).sum

/-- The users of some sessions, each once, in the order of their names. -/
def usersOf (sessions : List SslSession) : List String := distinctKeys (sessions.map (·.user))

/-- `usersOf` is in the order of the bytes of the names. -/
theorem pairwise_bytesOf_usersOf (sessions : List SslSession) :
    (usersOf sessions).Pairwise fun a b => bytesOf a < bytesOf b :=
  (pairwise_distinctKeys _).imp Text.bytesOf_lt_iff.2

/-- `usersOf` has exactly the users of the sessions. -/
theorem mem_usersOf {user : String} : user ∈ usersOf sessions ↔ ∃ x ∈ sessions, x.user = user := by
  rw [usersOf, mem_distinctKeys, List.mem_map]

/-- The left fold of `subsessionCount` is the sum of `tunnelCount`. -/
theorem subsessionCount_eq_tunnelCount (sessions : List SslSession) :
    subsessionCount sessions = tunnelCount sessions := by
  rw [subsessionCount, tunnelCount, List.sum_eq_foldl, List.foldl_map]

/-- Every session is one of its user. -/
theorem perm_flatMap_sessionsOf (sessions : List SslSession) :
    ((usersOf sessions).flatMap (sessionsOf sessions)).Perm sessions := by
  have hgroups := perm_flatMap_group SslSession.user sessions
  rwa [group, List.flatMap_map] at hgroups

/-- `sessionsOf` of all users are the sessions that are listed. -/
theorem sum_length_sessionsOf (sessions : List SslSession) :
    ((usersOf sessions).map fun user => (sessionsOf sessions user).length).sum =
      sessions.length := by
  rw [← (perm_flatMap_sessionsOf sessions).length_eq, List.length_flatMap]

/-- The subsessions of all users are those of the sessions that are listed. -/
theorem sum_tunnelCount_sessionsOf (sessions : List SslSession) :
    ((usersOf sessions).map fun user => tunnelCount (sessionsOf sessions user)).sum =
      tunnelCount sessions := by
  have hperm := (perm_flatMap_sessionsOf sessions).map (·.subsessions.length)
  rw [List.map_flatMap] at hperm
  rw [tunnelCount, ← hperm.sum_eq, List.flatMap_def, List.sum_flatten, List.map_map]
  rfl

/-! ## Samples -/

/-- The samples of a user: how many sessions there are, and how many subsessions of them. -/
def userSamples (vdom : String) (sessions : List SslSession) (user : String) : List Sample :=
  let labels := [("vdom", vdom), ("user", user)]
  [userSessions.labelled (Binary64.ofInt (sessionsOf sessions user).length) labels,
    userTunnels.labelled (Binary64.ofInt (tunnelCount (sessionsOf sessions user))) labels]

/-- The samples of the users of an envelope. -/
def userBlocks (e : Envelope (List SslSession)) : List Sample :=
  (usersOf e.results).flatMap (userSamples e.vdom e.results)

/-- The samples of the totals of an envelope. -/
def totalSamples (e : Envelope SslStats) : List Sample :=
  let labels := [("vdom", e.vdom)]
  [users.labelled e.results.current.users labels,
    tunnels.labelled e.results.current.tunnels labels,
    connections.labelled e.results.current.connections labels,
    highestUsers.labelled e.results.highest.users labels]

/-- `domainSamples` makes one block for each user. -/
theorem domainSamples_eq_userBlocks (e : Envelope (List SslSession)) :
    domainSamples e.vdom e.results = userBlocks e := by
  rw [domainSamples, group, List.flatMap_map, userBlocks, usersOf]
  refine List.flatMap_congr fun user _ => ?_
  dsimp only
  rw [subsessionCount_eq_tunnelCount]
  rfl

/-- The order of the sessions makes no difference to `userBlocks`. -/
theorem userBlocks_eq_of_perm {e e' : Envelope (List SslSession)}
    (h : e.vdom = e'.vdom ∧ e.results.Perm e'.results) : userBlocks e = userBlocks e' := by
  rw [← domainSamples_eq_userBlocks, ← domainSamples_eq_userBlocks, h.1]
  -- Both numbers of a user are sums over sessions.
  refine flatMap_group_of_perm _ (fun user xs ys hperm => ?_) h.2
  have htunnels : tunnelCount xs = tunnelCount ys := (hperm.map _).sum_eq
  simp only [subsessionCount_eq_tunnelCount, hperm.length_eq, htunnels]

/-! ## The routine -/

/-- What the endpoint of the totals answers, read. -/
def readTotals (device : Device σ) (s : σ) : Except ProbeError (List (Envelope SslStats)) :=
  Collection.readAnswer (Envelope.listDecoder (Decoder.record SslStats.record))
    "monitor/vpn/ssl/stats" (device.answer s ⟨"monitor/vpn/ssl/stats", everyDomain⟩).1

/-- What the endpoint of the sessions answers after that, read. -/
def readSessions (device : Device σ) (s : σ) :
    Except ProbeError (List (Envelope (List SslSession))) :=
  let next := (device.answer s ⟨"monitor/vpn/ssl/stats", everyDomain⟩).2
  Collection.readAnswer (Envelope.listDecoder (Decoder.list (Decoder.record SslSession.record)))
    "monitor/vpn/ssl" (device.answer next ⟨"monitor/vpn/ssl", everyDomain⟩).1

variable {σ : Type} (device : Device σ) (ctx : ScrapeContext) (s : σ)

/-- The routine fails as the first of the two answers that cannot be read, or makes samples of
both. -/
theorem value_collect : ((routine.collect ctx).run.run device s).value =
    (do
      let stats ← readTotals device s
      let sessions ← readSessions device s
      return stats.flatMap totalSamples ++ sessions.flatMap userBlocks) := by
  have hsamples : ∀ stats sessions, statsSamples stats ++ sessionSamples sessions =
      stats.flatMap totalSamples ++ sessions.flatMap userBlocks := fun stats sessions =>
    congrArg (stats.flatMap totalSamples ++ ·)
      (List.flatMap_congr fun e _ => domainSamples_eq_userBlocks e)
  simp only [routine, hsamples, ExceptT.run_bind, Dialogue.run_bind, Collection.run_fetch,
    readTotals, readSessions]
  -- The second question is asked only if the first answer could be read.
  cases Collection.readAnswer _ "monitor/vpn/ssl/stats" _ with
  | error cause => rfl
  | ok stats =>
    simp only [Dialogue.run_bind, Collection.run_fetch]
    cases Collection.readAnswer _ "monitor/vpn/ssl" _ <;> rfl

/-- What comes of the routine, by `readTotals` and `readSessions`. -/
theorem value_run : ((routine.run ctx).run device s).value =
    match readTotals device s, readSessions device s with
    | .error cause, _ => .failed cause
    | .ok _, .error cause => .failed cause
    | .ok stats, .ok sessions =>
      .collected (stats.flatMap totalSamples ++ sessions.flatMap userBlocks) := by
  have hattempt : routine.run ctx = routine.attempt ctx := rfl
  rw [hattempt, Routine.attempt, Dialogue.run_bind]
  simp only [value_collect]
  cases readTotals device s with
  | error cause => rfl
  | ok stats => cases readSessions device s <;> rfl

/-- The SSL-VPN routine reports the totals of each envelope and then, for each envelope and each of
its `usersOf`, how many sessions and subsessions the user has, all of it as the answers have it.  It
reports both endpoints or nothing, the counts of all users add up, and the order of the sessions of
an envelope makes no difference. -/
theorem sessions_counted_per_user :
    (∀ found, ((routine.run ctx).run device s).value = .collected found ↔
      ∃ stats sessions, readTotals device s = .ok stats ∧ readSessions device s = .ok sessions ∧
        found = stats.flatMap totalSamples ++ sessions.flatMap userBlocks) ∧
    (∀ cause, ((routine.run ctx).run device s).value = .failed cause ↔
      readTotals device s = .error cause ∨
        ∃ stats, readTotals device s = .ok stats ∧ readSessions device s = .error cause) ∧
    (∀ v stats, Decoder.record SslStats.record v = .ok stats →
      stats.current.users = SslStats.countAt "current" "users" v ∧
      stats.current.tunnels = SslStats.countAt "current" "tunnels" v ∧
      stats.current.connections = SslStats.countAt "current" "connections" v ∧
      stats.highest.users = SslStats.countAt "max" "users" v) ∧
    (∀ v session, Decoder.record SslSession.record v = .ok session →
      session.user = Json.textAt "user_name" (SslSession.record.entriesOf v) ∧
      session.subsessions = Json.itemsAt "subsessions" (SslSession.record.entriesOf v)) ∧
    (∀ sessions : List SslSession,
      ((usersOf sessions).Pairwise fun a b => bytesOf a < bytesOf b) ∧
      (∀ user, user ∈ usersOf sessions ↔ ∃ x ∈ sessions, x.user = user) ∧
      ((usersOf sessions).map fun user => (sessionsOf sessions user).length).sum =
        sessions.length ∧
      ((usersOf sessions).map fun user => tunnelCount (sessionsOf sessions user)).sum =
        tunnelCount sessions) ∧
    ∀ {τ : Type} (other : Device τ) (ctx' : ScrapeContext) (t : τ) sessions others,
      readTotals other t = readTotals device s → readSessions device s = .ok sessions →
      readSessions other t = .ok others →
      List.Forall₂ (fun e e' => e.vdom = e'.vdom ∧ e.results.Perm e'.results) sessions others →
      ((routine.run ctx').run other t).value = ((routine.run ctx).run device s).value := by
  refine ⟨fun found => ?_, fun cause => ?_, fun v stats => SslStats.counts_eq_countAt,
    fun v session hread => ⟨?_, ?_⟩,
    fun sessions => ⟨pairwise_bytesOf_usersOf sessions, fun user => mem_usersOf,
      sum_length_sessionsOf sessions, sum_tunnelCount_sessionsOf sessions⟩, ?_⟩
  · rw [value_run]
    cases readTotals device s with
    | error cause => simp
    | ok stats => cases readSessions device s <;> simp [eq_comm]
  · rw [value_run]
    cases readTotals device s with
    | error cause => simp
    | ok stats => cases readSessions device s <;> simp
  · exact SslSession.user_isShownBy.textOf SslSession.names_nodup rfl hread
  · exact SslSession.subsessions_eq_itemsAt hread
  -- Only the order of the sessions differs, which `userBlocks` does not show.
  · intro τ other ctx' t sessions others htotals hsessions hothers hperm
    have hblocks : sessions.flatMap userBlocks = others.flatMap userBlocks :=
      flatMap_eq_of_forall₂ hperm fun e e' => userBlocks_eq_of_perm
    rw [value_run, value_run, htotals, hsessions, hothers]
    cases readTotals device s with
    | error cause => rfl
    | ok stats =>
      show RoutineOutcome.collected (_ ++ others.flatMap userBlocks) = .collected (_ ++ _)
      rw [hblocks]

/-- Two sessions of one user around one of another, listed in two orders, after totals that lack the
number of connections. -/
theorem sessions_counted_per_user_rearranged :
    let session (user : String) (subsessions : Nat) : Json :=
      .obj [("user_name", .str user), ("subsessions", .arr (List.replicate subsessions .null))]
    let totals : Json := .obj [("current", .obj [("users", .int 4), ("tunnels", .int 5)]),
      ("max", .obj [("users", .int 9), ("tunnels", .int 8)])]
    let device (sessions : List Json) : Device Unit := Device.ofFunction fun
      | ⟨"monitor/vpn/ssl", _⟩ =>
        .ok (.arr [.obj [("vdom", .str "root"), ("results", .arr sessions)]])
      | _ => .ok (.arr [.obj [("vdom", .str "dmz"), ("results", totals)]])
    let first := device [session "eve" 1, session "ann" 0, session "eve" 2]
    let second := device [session "eve" 2, session "eve" 1, session "ann" 0]
    let ctx : ScrapeContext := ⟨some ⟨7, 0⟩, none, {}⟩
    ∃ found stats sessions,
      ((routine.run ctx).run first ()).value = .collected found ∧
      ((routine.run ctx).run second ()).value = .collected found ∧
      readTotals first () = .ok stats ∧ readSessions first () = .ok sessions ∧
      found = stats.flatMap totalSamples ++ sessions.flatMap userBlocks ∧
      stats.map (·.results.highest.users) = [SslStats.countAt "max" "users" totals] ∧
      found.map (fun x => (x.name, x.label? "user", x.value)) = [
        ("fortigate_vpn_ssl_users", none, 4.0), ("fortigate_vpn_ssl_tunnels", none, 5.0),
        ("fortigate_vpn_ssl_connections", none, 0.0), ("fortigate_vpn_ssl_users_max", none, 9.0),
        ("fortigate_vpn_ssl_user_sessions", some "ann", 1.0),
        ("fortigate_vpn_ssl_user_tunnels", some "ann", 0.0),
        ("fortigate_vpn_ssl_user_sessions", some "eve", 2.0),
        ("fortigate_vpn_ssl_user_tunnels", some "eve", 3.0)] := by
  intro session totals device first second ctx
  let listed (results : List SslSession) : List (Envelope (List SslSession)) :=
    [{ results, vdom := "root" }]
  let eve : SslSession := ⟨"eve", [.null]⟩
  let eveAgain : SslSession := ⟨"eve", [.null, .null]⟩
  let ann : SslSession := ⟨"ann", []⟩
  have hfirst : readSessions first () = .ok (listed [eve, ann, eveAgain]) := rfl
  have hsecond : readSessions second () = .ok (listed [eveAgain, eve, ann]) := rfl
  let stats : SslStats :=
    { current := { users := Binary64.ofInt 4, tunnels := Binary64.ofInt 5 }
      highest := { users := Binary64.ofInt 9, tunnels := Binary64.ofInt 8 } }
  have htotals : readTotals first () = .ok [{ results := stats, vdom := "dmz" }] := rfl
  have hperm : [eve, ann, eveAgain].Perm [eveAgain, eve, ann] :=
    List.perm_append_singleton eveAgain [eve, ann]
  obtain ⟨hcollected, -, hcounts, -, -, hsame⟩ := sessions_counted_per_user first ctx ()
  have hvalue := (hcollected _).2 ⟨_, _, htotals, hfirst, rfl⟩
  have hother := hsame second ctx () _ _ rfl hfirst hsecond (.cons ⟨rfl, hperm⟩ .nil)
  obtain ⟨-, -, -, hhighest⟩ := hcounts totals stats rfl
  exact ⟨_, _, _, hvalue, hother.trans hvalue, htotals, hfirst, rfl,
    congrArg (fun x => [x]) hhighest, by decide +kernel⟩

end SslVpn
end FirewallProbe
