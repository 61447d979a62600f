import Lifeline.Config.Variables
import Lifeline.Gateway.Route
import Lifeline.Proofs.Endpoint.Url

/-!
# Where the socket is mounted and where it is dialed

The gateway mounts the configured path as it stands, and reads it as a pattern.
A client dials the same path with a slash in front, and asks for no more of it
than what comes before the first question mark.  A pattern stands for that part
of its own text exactly when its question marks all belong to the name of a last
parameter (`accepts_cut_iff`), and this decides whether the two sides meet
(`socketAgreed_iff`).
-/

namespace Lifeline

namespace RoutePattern

/-- Question marks stand nowhere but in the name of a parameter with which the
text ends. -/
def QueryInName (text : List Char) : Prop :=
  ∃ before last, text = before ++ last ∧ '?' ∉ before ∧
    (last = [] ∨ ∃ mark name, last = mark :: name ∧ isMark mark = true ∧ '/' ∉ name)

theorem queryInName_of_not_mem {text : List Char} (hnone : '?' ∉ text) : QueryInName text :=
  ⟨text, [], (List.append_nil text).symm, hnone, .inl rfl⟩

theorem QueryInName.cons {c : Char} {text : List Char} (hname : QueryInName text)
    (hquestion : c ≠ '?') : QueryInName (c :: text) := by
  obtain ⟨before, last, rfl, hbefore, hlast⟩ := hname
  exact ⟨c :: before, last, rfl, List.not_mem_cons_of_ne_of_not_mem hquestion.symm hbefore, hlast⟩

/-- Either the last parameter begins with the first character, or everything is
decided behind it. -/
theorem queryInName_cons_iff {c : Char} {text : List Char} :
    QueryInName (c :: text) ↔
      isMark c = true ∧ '/' ∉ text ∨ c ≠ '?' ∧ QueryInName text := by
  constructor
  · rintro ⟨before, last, htext, hbefore, hlast⟩
    cases before with
    | nil =>
        obtain rfl | ⟨mark, name, rfl, hmark, hname⟩ := hlast
        · cases htext
        · cases htext
          exact .inl ⟨hmark, hname⟩
    | cons first before =>
        cases htext
        have hquestion : c ≠ '?' := (List.ne_of_not_mem_cons hbefore).symm
        exact .inr ⟨hquestion, before, last, rfl, List.not_mem_of_not_mem_cons hbefore, hlast⟩
  · rintro (⟨hmark, hname⟩ | ⟨hquestion, hname⟩)
    · exact ⟨[], c :: text, rfl, List.not_mem_nil, .inr ⟨c, text, rfl, hmark, hname⟩⟩
    · exact hname.cons hquestion

theorem ne_question_of_isMark {c : Char} (hmark : isMark c = true) : c ≠ '?' := by
  rintro rfl
  cases hmark

/-- What no parameter begins in can be left out, as far as it has no question mark. -/
theorem queryInName_append_iff {before text : List Char}
    (hmark : ∀ c ∈ before, isMark c = false) :
    QueryInName (before ++ text) ↔ '?' ∉ before ∧ QueryInName text := by
  induction before with
  | nil => simp
  | cons c before ih =>
      obtain ⟨hfirst, hbefore⟩ := List.forall_mem_cons.1 hmark
      rw [List.cons_append, queryInName_cons_iff, ih hbefore]
      simp [hfirst, and_assoc, eq_comm]

theorem accepts_nil_iff {pattern : RoutePattern} : accepts pattern [] = true ↔ pattern = [] := by
  cases pattern with
  | nil => simp [accepts]
  | cons piece pattern => cases piece <;> simp [accepts]

theorem eq_nil_iff_of_read {fuel : Nat} {afterSlash : Bool} {text : List Char}
    {pattern : RoutePattern} (hread : read fuel afterSlash text = some pattern) :
    pattern = [] ↔ text = [] := by
  fun_induction read generalizing pattern with
  | case1 => cases hread
  | case2 =>
      cases hread
      simp
  | case3 afterSlash fuel rest hname =>
      obtain ⟨pieces, -, rfl⟩ := Option.map_eq_some_iff.1 hread
      simp
  | case4 => cases hread
  | case5 =>
      cases hread
      simp
  | case6 => cases hread
  | case7 afterSlash fuel c rest =>
      obtain ⟨pieces, -, rfl⟩ := Option.map_eq_some_iff.1 hread
      simp

/-- Behind the first segment, what comes before the first question mark is used
up if the segment holds one. -/
theorem dropWhile_cut (text : List Char) :
    (text.takeWhile (· != '?')).dropWhile (· != '/') =
      if '?' ∈ text.takeWhile (· != '/') then []
      else (text.dropWhile (· != '/')).takeWhile (· != '?') := by
  induction text with
  | nil => rfl
  | cons c text ih =>
      by_cases hquestion : c = '?'
      · simp [hquestion]
      · by_cases hslash : c = '/'
        · simp [hslash]
        · simp [hquestion, hslash, ih, Ne.symm hquestion]

theorem dropWhile_slash_eq_nil_iff {text : List Char} :
    text.dropWhile (· != '/') = [] ↔ '/' ∉ text := by
  simp only [List.dropWhile_eq_nil_iff, bne_iff_ne]
  exact List.forall_mem_ne'

/-- A parameter whose name holds a question mark must be the last. -/
theorem queryInName_parameter_iff {rest : List Char}
    (hname : isName (rest.takeWhile (· != '/')) = true) :
    QueryInName (':' :: rest) ↔
      if '?' ∈ rest.takeWhile (· != '/') then rest.dropWhile (· != '/') = []
      else QueryInName (rest.dropWhile (· != '/')) := by
  have hunmarked : ∀ c ∈ rest.takeWhile (· != '/'), isMark c = false := by
    simpa [isName] using (Bool.and_eq_true_iff.1 hname).2
  have hrest : QueryInName rest ↔ '?' ∉ rest.takeWhile (· != '/') ∧
      QueryInName (rest.dropWhile (· != '/')) := by
    rw [← queryInName_append_iff hunmarked, List.takeWhile_append_dropWhile]
  have hlast : '/' ∉ rest → QueryInName (rest.dropWhile (· != '/')) := by
    intro hslash
    rw [dropWhile_slash_eq_nil_iff.2 hslash]
    exact queryInName_of_not_mem List.not_mem_nil
  rw [queryInName_cons_iff, hrest, dropWhile_slash_eq_nil_iff]
  split
  · next hquestion => simp [hquestion, isMark]
  · next hquestion =>
      constructor
      · rintro (⟨-, hslash⟩ | ⟨-, -, hbehind⟩)
        · exact hlast hslash
        · exact hbehind
      · intro hbehind
        exact .inr ⟨by decide, hquestion, hbehind⟩

/-- A pattern stands for the part of its text before the first question mark
exactly when the question marks belong to the name of a last parameter. -/
theorem accepts_cut_iff {fuel : Nat} {afterSlash : Bool} {text : List Char}
    {pattern : RoutePattern} (hread : read fuel afterSlash text = some pattern) :
    accepts pattern (text.takeWhile (· != '?')) = true ↔ QueryInName text := by
  fun_induction read generalizing pattern with
  | case1 => cases hread
  | case2 =>
      cases hread
      exact iff_of_true rfl (queryInName_of_not_mem List.not_mem_nil)
  | case3 afterSlash fuel rest hname ih =>
      obtain ⟨pieces, hpieces, rfl⟩ := Option.map_eq_some_iff.1 hread
      have hcut : accepts (.parameter :: pieces) ((':' :: rest).takeWhile (· != '?')) =
          accepts pieces ((rest.takeWhile (· != '?')).dropWhile (· != '/')) := by
        simp [accepts]
      rw [hcut, dropWhile_cut, queryInName_parameter_iff hname]
      split
      · rw [accepts_nil_iff, eq_nil_iff_of_read hpieces]
      · exact ih hpieces
  | case4 => cases hread
  | case5 afterSlash fuel rest hname =>
      cases hread
      have hslash : '/' ∉ rest := by simpa using (Bool.and_eq_true_iff.1 hname).2
      exact iff_of_true rfl (queryInName_cons_iff.2 (.inl ⟨rfl, hslash⟩))
  | case6 => cases hread
  | case7 afterSlash fuel c rest hcolon hstar ih =>
      obtain ⟨pieces, hpieces, rfl⟩ := Option.map_eq_some_iff.1 hread
      have hmark : isMark c = false := by simpa [isMark] using ⟨hcolon, hstar⟩
      rw [queryInName_cons_iff, ← ih hpieces, hmark]
      by_cases hquestion : c = '?'
      · simp [hquestion, accepts]
      · simp [hquestion, accepts]

theorem exists_read_of_parse {path : String} {pattern : RoutePattern}
    (hparse : parse path = some pattern) :
    path.toList.head? = some '/' ∧ ∃ fuel, read fuel false path.toList = some pattern := by
  rw [parse] at hparse
  split at hparse
  · next rest hrest =>
      rw [hrest]
      exact ⟨rfl, _, (Option.filter_eq_some_iff.1 hparse).1⟩
  · cases hparse

theorem read_literal {text : List Char} (hliteral : ∀ c ∈ text, isMark c = false) {fuel : Nat}
    (hfuel : text.length < fuel) (afterSlash : Bool) :
    read fuel afterSlash text = some (text.map .literal) := by
  induction text generalizing fuel afterSlash with
  | nil =>
      obtain ⟨fuel, rfl⟩ := Nat.exists_eq_add_of_lt hfuel
      rfl
  | cons c text ih =>
      obtain ⟨hfirst, hrest⟩ := List.forall_mem_cons.1 hliteral
      obtain ⟨hcolon, hstar⟩ : c ≠ ':' ∧ c ≠ '*' := by simpa [isMark] using hfirst
      cases fuel with
      | zero => exact absurd hfuel (Nat.not_lt_zero _)
      | succ fuel =>
          have hlater := ih hrest (Nat.lt_of_succ_lt_succ hfuel) (c == '/')
          simp [read, hlater]

/-- A path without parameters is a pattern if it starts with a slash. -/
theorem isSome_parse_literal_iff {path : String} (hliteral : path.toList.any isMark = false) :
    (parse path).isSome = true ↔ path.toList.head? = some '/' := by
  constructor
  · intro hsome
    obtain ⟨pattern, hpattern⟩ := Option.isSome_iff_exists.1 hsome
    exact (exists_read_of_parse hpattern).1
  · intro hslash
    obtain ⟨rest, hrest⟩ := List.head?_eq_some_iff.1 hslash
    rw [hrest] at hliteral
    have hunmarked : ∀ c ∈ '/' :: rest, isMark c = false := by
      simpa only [List.any_eq_false, Bool.not_eq_true] using hliteral
    simp only [parse, hrest]
    rw [read_literal hunmarked (by simp)]
    have hnone : (('/' :: rest).map RoutePiece.literal).count .parameter = 0 := by
      simp [List.count_eq_zero]
    rw [Option.filter_some_pos (by rw [hnone]; rfl)]
    rfl

theorem queryInName_literal_iff {text : List Char} (hliteral : text.any isMark = false) :
    QueryInName text ↔ '?' ∉ text := by
  have hunmarked : ∀ c ∈ text, isMark c = false := by
    simpa only [List.any_eq_false, Bool.not_eq_true] using hliteral
  rw [← List.append_nil text, queryInName_append_iff hunmarked, List.append_nil]
  exact and_iff_left (queryInName_of_not_mem List.not_mem_nil)

/-- Where a parameter holds the question marks, it stands before them. -/
theorem QueryInName.exists_mark {text : List Char} (hname : QueryInName text)
    (hquestion : '?' ∈ text) : ∃ mark ∈ text.takeWhile (· != '?'), isMark mark = true := by
  obtain ⟨before, last, rfl, hbefore, rfl | ⟨mark, name, rfl, hmark, -⟩⟩ := hname
  · exact absurd (by simpa using hquestion) hbefore
  · have hkept : ∀ c ∈ before, (c != '?') = true := by
      intro c hmember
      exact bne_iff_ne.2 (ne_of_mem_of_not_mem hmember hbefore)
    rw [List.takeWhile_append_of_pos hkept]
    have hplain : (mark != '?') = true := bne_iff_ne.2 (ne_question_of_isMark hmark)
    exact ⟨mark, by simp [hplain], hmark⟩

end RoutePattern

namespace Router

/-- The part of a path before its first question mark is the path of the health
check only if the whole is. -/
theorem cut_ne_health {path : String} (hname : RoutePattern.QueryInName path.toList)
    (hhealth : path ≠ healthPath) :
    String.ofList (path.toList.takeWhile (· != '?')) ≠ healthPath := by
  intro hcut
  have hcut' : path.toList.takeWhile (· != '?') = healthPath.toList := by
    rw [← hcut, String.toList_ofList]
  by_cases hquestion : '?' ∈ path.toList
  · obtain ⟨mark, hmember, hmark⟩ := hname.exists_mark hquestion
    rw [hcut'] at hmember
    have hplain : healthPath.toList.any RoutePattern.isMark = false := by decide +kernel
    exact absurd hmark (List.any_eq_false.1 hplain mark hmember)
  · have hwhole := Uri.takeWhile_bne_eq_self hquestion
    exact hhealth (String.toList_inj.1 (hwhole.symm.trans hcut'))

theorem mount_eq_some_iff {path : String} {router : Router} :
    mount path = some router ↔ path ≠ healthPath ∧
      ∃ pattern, RoutePattern.parse path = some pattern ∧ router = ⟨pattern⟩ := by
  rw [mount]
  split
  · next hhealth => simp [hhealth]
  · next hhealth => simp [hhealth, Option.map_eq_some_iff, @eq_comm _ router]

theorem destination_health (router : Router) : router.destination healthPath = .health :=
  if_pos rfl

/-- A path is mounted for sockets where its pattern stands for the part of it
that is asked for. -/
theorem destination_cut_iff {path : String} {router : Router}
    (hmount : mount path = some router) :
    router.destination (String.ofList (path.toList.takeWhile (· != '?'))) = .socket ↔
      RoutePattern.QueryInName path.toList := by
  obtain ⟨hhealth, pattern, hparse, rfl⟩ := mount_eq_some_iff.1 hmount
  obtain ⟨-, fuel, hread⟩ := RoutePattern.exists_read_of_parse hparse
  rw [← RoutePattern.accepts_cut_iff hread]
  constructor
  · intro hsocket
    rw [destination] at hsocket
    split at hsocket
    · cases hsocket
    · split at hsocket
      · next haccepts => simpa using haccepts
      · cases hsocket
  · intro haccepts
    have hother := cut_ne_health ((RoutePattern.accepts_cut_iff hread).1 haccepts) hhealth
    rw [destination, if_neg hother, String.toList_ofList, if_pos haccepts]

end Router

namespace Config

theorem path_of_ofVariables {given : Variables} {config : Config}
    (hconfig : ofVariables given = .ok config) :
    config.endpoint.path = (given Setting.path.variable).getD Default.path := by
  obtain ⟨pingInterval, -, hconfig⟩ := bind_eq_ok.1 hconfig
  obtain ⟨reconnectDelay, -, hconfig⟩ := bind_eq_ok.1 hconfig
  obtain ⟨pongTimeout, -, hconfig⟩ := bind_eq_ok.1 hconfig
  obtain ⟨port, -, hconfig⟩ := bind_eq_ok.1 hconfig
  obtain ⟨secure, -, hconfig⟩ := bind_eq_ok.1 hconfig
  cases hconfig
  rfl

/-- Client and gateway agree on where the socket lives: the configured path can be
mounted beside the health check, and a request for what the endpoint's url names
is sent to the socket. -/
def SocketAgreed (settings : EndpointSettings) (endpoint : Endpoint) : Prop :=
  ∃ router, Router.mount settings.path = some router ∧
    router.destination Router.healthPath = .health ∧
    ∀ uri, Uri.parse endpoint.url = .ok uri →
      ∃ asked, Uri.parse uri.target = .ok asked ∧ router.destination asked.path = .socket

/-- The side that is asked looks at the part of the endpoint's path before its
first question mark. -/
theorem asked_cut {endpoint : Endpoint} {uri : Uri} (hproper : endpoint.IsProper)
    (hhost : endpoint.HostEndsNowhere) (huri : Uri.parse endpoint.url = .ok uri)
    (router : Router) :
    (∃ asked, Uri.parse uri.target = .ok asked ∧ router.destination asked.path = .socket) ↔
      router.destination (String.ofList (endpoint.path.toList.takeWhile (· != '?'))) =
        .socket := by
  rw [Endpoint.parse_target hproper hhost huri, ← Endpoint.path_ofPath hproper.slash]
  simp

theorem path_of_mount {settings : EndpointSettings} {endpoint : Endpoint} {router : Router}
    (hendpoint : Endpoint.ofSettings settings = .ok endpoint)
    (hmount : Router.mount settings.path = some router) : endpoint.path = settings.path := by
  obtain ⟨-, -, rfl⟩ := Endpoint.of_eq_ok_iff.1 hendpoint
  obtain ⟨-, pattern, hparse, -⟩ := Router.mount_eq_some_iff.1 hmount
  exact Endpoint.slashed_eq_self (RoutePattern.exists_read_of_parse hparse).1

/-- What it takes for the two sides to agree, by the path as it is configured. -/
theorem socketAgreed_iff {settings : EndpointSettings} {endpoint : Endpoint}
    (hendpoint : Endpoint.ofSettings settings = .ok endpoint)
    (hhost : endpoint.HostEndsNowhere) :
    SocketAgreed settings endpoint ↔
      settings.path ≠ Router.healthPath ∧ (RoutePattern.parse settings.path).isSome = true ∧
        ((∃ uri, Uri.parse endpoint.url = .ok uri) →
          RoutePattern.QueryInName settings.path.toList) := by
  have hproper := Endpoint.isProper_of_ok hendpoint
  -- a path that is mounted starts with a slash, so that the endpoint keeps it
  have hmeet : ∀ router uri, Router.mount settings.path = some router →
      Uri.parse endpoint.url = .ok uri →
      ((∃ asked, Uri.parse uri.target = .ok asked ∧ router.destination asked.path = .socket) ↔
        RoutePattern.QueryInName settings.path.toList) := by
    intro router uri hmount huri
    rw [asked_cut hproper hhost huri, path_of_mount hendpoint hmount]
    exact Router.destination_cut_iff hmount
  constructor
  · rintro ⟨router, hmount, -, hserved⟩
    obtain ⟨hhealth, pattern, hparse, -⟩ := Router.mount_eq_some_iff.1 hmount
    refine ⟨hhealth, Option.isSome_of_eq_some hparse, ?_⟩
    rintro ⟨uri, huri⟩
    exact (hmeet router uri hmount huri).1 (hserved uri huri)
  · rintro ⟨hhealth, hsome, hname⟩
    obtain ⟨pattern, hparse⟩ := Option.isSome_iff_exists.1 hsome
    have hmount : Router.mount settings.path = some ⟨pattern⟩ :=
      Router.mount_eq_some_iff.2 ⟨hhealth, pattern, hparse, rfl⟩
    refine ⟨⟨pattern⟩, hmount, Router.destination_health _, ?_⟩
    intro uri huri
    exact (hmeet _ uri hmount huri).2 (hname ⟨uri, huri⟩)

/-- The socket is found where it is dialed exactly if the path that was given, as
it was written, is a pattern other than the path of the health check, and its
question marks belong to the name of a last parameter.  A path without parameters
has to start with a slash, to be another than the path of the health check, and to
have no query.  A query matters only where the url can be read. -/
theorem socket_served_where_dialed_iff {given : Variables} {config : Config}
    {endpoint : Endpoint} (hconfig : ofVariables given = .ok config)
    (hendpoint : Endpoint.ofSettings config.endpoint = .ok endpoint)
    (hhost : endpoint.HostEndsNowhere) :
    let path := (given Setting.path.variable).getD Default.path
    let isDialed := ∃ uri, Uri.parse endpoint.url = .ok uri
    (SocketAgreed config.endpoint endpoint ↔
      path ≠ Router.healthPath ∧ (RoutePattern.parse path).isSome = true ∧
        (isDialed → RoutePattern.QueryInName path.toList)) ∧
    (path.toList.any RoutePattern.isMark = false →
      (SocketAgreed config.endpoint endpoint ↔
        path ≠ Router.healthPath ∧ path.toList.head? = some '/' ∧
          (isDialed → '?' ∉ path.toList))) := by
  intro path isDialed
  have hpath : config.endpoint.path = path := path_of_ofVariables hconfig
  have hagreed := socketAgreed_iff hendpoint hhost
  rw [hpath] at hagreed
  refine ⟨hagreed, ?_⟩
  intro hliteral
  rw [hagreed, RoutePattern.isSome_parse_literal_iff hliteral,
    RoutePattern.queryInName_literal_iff hliteral]

/-- Nothing is given but a port and a path. -/
def portAndPath (port path : String) : Variables := fun name =>
  if name = Setting.port.variable then some port
  else if name = Setting.path.variable then some path
  else none

theorem socket_served_with_query_in_name :
    ∃ config endpoint,
      ofVariables (portAndPath "9000" "/rooms/:room?seat") = .ok config ∧
      Endpoint.ofSettings config.endpoint = .ok endpoint ∧
      Uri.parse endpoint.url =
        .ok ⟨some "ws", "127.0.0.1:9000", "/rooms/:room?seat"⟩ ∧
      SocketAgreed config.endpoint endpoint := by
  let endpoint : Endpoint := ⟨"127.0.0.1", 9000, false, "/rooms/:room?seat"⟩
  let config : Config :=
    { app := ⟨"tether", .development⟩
      endpoint := ⟨"127.0.0.1", 9000, false, "/rooms/:room?seat"⟩
      liveness := .standard }
  have hconfig : ofVariables (portAndPath "9000" "/rooms/:room?seat") = .ok config := by
    decide +kernel
  have hendpoint : Endpoint.ofSettings config.endpoint = .ok endpoint := by decide +kernel
  have hhost : endpoint.HostEndsNowhere := by
    rw [Endpoint.HostEndsNowhere]
    decide +kernel
  have hname : RoutePattern.QueryInName "/rooms/:room?seat".toList := by
    refine ⟨"/rooms/".toList, ":room?seat".toList, by decide +kernel, by decide +kernel, .inr ?_⟩
    exact ⟨':', "room?seat".toList, by decide +kernel, rfl, by decide +kernel⟩
  refine ⟨config, endpoint, hconfig, hendpoint, by decide +kernel, ?_⟩
  apply (socket_served_where_dialed_iff hconfig hendpoint hhost).1.2
  exact ⟨by decide +kernel, by decide +kernel, fun _ => hname⟩

/-- The endpoint supplies a slash that is missing, and the gateway does not: what
is dialed is a path that could not be mounted. -/
theorem missing_slash_not_mounted :
    ∃ config endpoint,
      ofVariables (portAndPath "9000" "ws") = .ok config ∧
      Endpoint.ofSettings config.endpoint = .ok endpoint ∧
      Uri.parse endpoint.url = .ok ⟨some "ws", "127.0.0.1:9000", "/ws"⟩ ∧
      Router.mount config.endpoint.path = none ∧
      ¬ SocketAgreed config.endpoint endpoint := by
  let endpoint : Endpoint := ⟨"127.0.0.1", 9000, false, "/ws"⟩
  let config : Config :=
    { app := ⟨"tether", .development⟩
      endpoint := ⟨"127.0.0.1", 9000, false, "ws"⟩
      liveness := .standard }
  have hmount : Router.mount config.endpoint.path = none := by decide +kernel
  refine ⟨config, endpoint, by decide +kernel, by decide +kernel, by decide +kernel, hmount, ?_⟩
  rintro ⟨router, hmounted, -⟩
  rw [hmount] at hmounted
  cases hmounted

end Config

end Lifeline
