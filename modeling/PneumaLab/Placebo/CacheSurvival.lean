import PneumaLab.Exceptions
import PneumaLab.Library.JsonSpaced
import PneumaLab.Library.Table
import PneumaLab.Library.TextFile

namespace PneumaLab.Placebo.Backend

structure Runtime where
  hashText : String → String
  floatRepr : String → String

structure DecodingConfig where
  model : String
  configHash : String

structure Call where
  prompt : String
  seed : ℤ
  bypassCache : Bool
  response : Option String

abbrev Cache := Table (Prod.fst : String × String → String)

section Rows
variable (runtime : Runtime)

def cacheKey (configHash promptHash : String) (seed : ℤ) : String :=
  runtime.hashText (configHash ++ "|" ++ promptHash ++ "|" ++ toString seed)

def keyOf (config : DecodingConfig) (call : Call) : String :=
  cacheKey runtime config.configHash (runtime.hashText call.prompt) call.seed

def rowFields (config : DecodingConfig) (call : Call) (text : String) : List (String × Json) :=
  [("cache_key",.str (keyOf runtime config call)),("config_hash",.str config.configHash),("model",.str config.model),
    ("prompt_hash",.str (runtime.hashText call.prompt)),("seed",.int call.seed),("text",.str text)]

def rowLine (config : DecodingConfig) (call : Call) (text : String) : List Char := Json.spaced (.obj (rowFields runtime config call text))

def rowBytes (config : DecodingConfig) (call : Call) (text : String) : Bytes :=
  utf8 (String.ofList (rowLine runtime config call text ++ ['\n']))

end Rows

section Loading
variable (runtime : Runtime)

def typeName : Json → String
  | .null => "NoneType"
  | .bool _ => "bool"
  | .int _ => "int"
  | .float _ => "float"
  | .str _ => "str"
  | .arr _ => "list"
  | .obj _ => "dict"

def replayLine (cache : Cache) (line : List Char) : Py Cache :=
  if stripChars line = [] then .ok cache
  else
    match Json.loadsWith (.python runtime.floatRepr) (stripChars line) with
    | none => .ok cache
    | some (.obj fields) =>
      match Json.get fields "cache_key", Json.get fields "text" with
      | .str key, .str text => .ok (cache.put (key,text))
      | _, _ => .ok cache
    | some row => .error (.attributeError ("'" ++ typeName row ++ "' object has no attribute 'get'"))

def loadCache (file : Bytes) : Py Cache := do
  let text ← required (.unicodeDecodeError "cache_path") (readText file)
  (text.toList.splitOn '\n').foldlM (replayLine runtime) Table.empty

end Loading

section Generating
variable (runtime : Runtime)

structure Live where
  cache : Cache
  file : Bytes
  generated : List (String × String)

structure Reply where
  key : String
  text : Option String
  cached : Bool
  deriving DecidableEq

def Live.cachedText (live : Live) (key : String) (call : Call) : Option String :=
  if call.bypassCache then none else (live.cache.find key).map Prod.snd

def Live.append (live : Live) (config : DecodingConfig) (call : Call) (text : String) : Live where
  cache := live.cache.put (keyOf runtime config call,text)
  file := live.file ++ rowBytes runtime config call text
  generated := live.generated ++ [(keyOf runtime config call,text)]

def generate (config : DecodingConfig) (live : Live) (call : Call) : Live × Reply :=
  let key := keyOf runtime config call
  match live.cachedText key call with
  | some text => (live,⟨key,some text,true⟩)
  | none =>
    match call.response with
    | none => (live,⟨key,none,false⟩)
    | some text =>
      if call.bypassCache then ({live with generated := live.generated ++ [(key,text)]},⟨key,some text,false⟩)
      else (live.append runtime config call text,⟨key,some text,false⟩)

def play (config : DecodingConfig) (live : Live) (calls : List Call) : Live :=
  calls.foldl (fun live call => (generate runtime config live call).1) live

end Generating

section Sessions
variable (runtime : Runtime)

structure Session where
  config : DecodingConfig
  calls : List Call
  torn : Option (Call × ℕ)

structure Disk where
  file : Bytes
  generated : List (String × String)

def opening (disk : Disk) : Py Live := do
  return ⟨← loadCache runtime disk.file,disk.file,disk.generated⟩

def ending (session : Session) (live : Live) : Disk :=
  match session.torn with
  | none => ⟨live.file,live.generated⟩
  | some (call,kept) =>
    let done := (generate runtime session.config live call).1
    ⟨live.file ++ (done.file.drop live.file.length).take kept,done.generated⟩

def runSession (disk : Disk) (session : Session) : Py Disk := do
  return ending runtime session (play runtime session.config (← opening runtime disk) session.calls)

def runSessions (sessions : List Session) : Py Disk := sessions.foldlM (runSession runtime) ⟨[],[]⟩

def liveIn (before : List Session) (config : DecodingConfig) (prior : List Call) : Py Live := do
  return play runtime config (← opening runtime (← runSessions runtime before)) prior

end Sessions

variable {runtime : Runtime}

section Lines

theorem utf8_append (left right : String) : utf8 (left ++ right) = utf8 left ++ utf8 right := by
  simp [utf8]

theorem rowFields_scalar (config : DecodingConfig) (call : Call) (text : String) :
    ∀ field ∈ rowFields runtime config call text, Json.Scalar field.2 := by
  intro field hfield
  simp only [rowFields,List.mem_cons,List.not_mem_nil,or_false] at hfield
  rcases hfield with rfl | rfl | rfl | rfl | rfl | rfl <;> exact trivial

theorem rowKeys_sorted : ["cache_key","config_hash","model","prompt_hash","seed","text"].Pairwise (· < ·) := by decide

theorem replay_row (cache : Cache) (config : DecodingConfig) (call : Call) (text : String) :
    replayLine runtime cache (rowLine runtime config call text) = .ok (cache.put (keyOf runtime config call,text)) := by
  have hstrip : stripChars (rowLine runtime config call text) = rowLine runtime config call text := Json.stripChars_spaced _ _
  have hload : Json.loadsWith (.python runtime.floatRepr) (rowLine runtime config call text) =
      some (.obj (rowFields runtime config call text)) :=
    Json.loadsWith_spaced _ rowKeys_sorted (rowFields_scalar config call text)
  have hkey : Json.get (rowFields runtime config call text) "cache_key" = .str (keyOf runtime config call) := by
    simp [rowFields,Json.get]
  have htext : Json.get (rowFields runtime config call text) "text" = .str text := by
    simp [rowFields,Json.get]
  have hne : rowLine runtime config call text ≠ [] := List.cons_ne_nil _ _
  rw [replayLine,hstrip,if_neg hne,hload]
  simp only [hkey,htext]

def fileOf (lines : List (List Char)) (last : List Char) : Bytes := utf8 (String.ofList (lines.flatMap (· ++ ['\n']) ++ last))

theorem splitOn_lines {lines : List (List Char)} {last : List Char} (h : ∀ line ∈ last :: lines, '\n' ∉ line) :
    (lines.flatMap (· ++ ['\n']) ++ last).splitOn '\n' = lines ++ [last] := by
  obtain ⟨hlast,hlines⟩ := List.forall_mem_cons.mp h
  clear h
  induction lines with
  | nil => exact List.splitOn_eq_singleton hlast
  | cons line lines ih =>
    obtain ⟨hline,hlines⟩ := List.forall_mem_cons.mp hlines
    rw [List.flatMap_cons,List.append_assoc,List.append_assoc,List.singleton_append,
      List.splitOn_append_cons_self_of_not_mem hline,ih hlines]
    rfl

theorem load_file {lines : List (List Char)} {last : List Char} (h : ∀ line ∈ last :: lines, ∀ c ∈ line, 32 ≤ c.toNat) :
    loadCache runtime (fileOf lines last) = (lines ++ [last]).foldlM (replayLine runtime) Table.empty := by
  have hreturn : ∀ c ∈ (String.ofList (lines.flatMap (· ++ ['\n']) ++ last)).toList, c ≠ '\r' := by
    rw [String.toList_ofList]
    intro c hc
    obtain hc | hc := List.mem_append.mp hc
    · obtain ⟨line,hline,hc⟩ := List.mem_flatMap.mp hc
      obtain hc | hc := List.mem_append.mp hc
      · rintro rfl
        exact absurd (h line (List.mem_cons_of_mem _ hline) _ hc) (by decide)
      · rw [List.mem_singleton.mp hc]
        decide
    · rintro rfl
      exact absurd (h last List.mem_cons_self _ hc) (by decide)
  have hunbroken : ∀ line ∈ last :: lines, '\n' ∉ line := by
    intro line hline hmem
    exact absurd (h line hline _ hmem) (by decide)
  rw [loadCache,fileOf,readText_utf8.mpr hreturn,required,ok_bind,String.toList_ofList,splitOn_lines hunbroken]

def Replays (runtime : Runtime) (file : Bytes) (cache : Cache) : Prop :=
  ∃ lines : List (List Char), file = fileOf lines [] ∧ (∀ line ∈ lines, ∀ c ∈ line, 32 ≤ c.toNat) ∧
    lines.foldlM (replayLine runtime) Table.empty = .ok cache

theorem Replays.empty : Replays runtime [] Table.empty := ⟨[],rfl,by simp,rfl⟩

theorem Replays.load {file : Bytes} {cache : Cache} (h : Replays runtime file cache) : loadCache runtime file = .ok cache := by
  obtain ⟨lines,rfl,hprintable,hfold⟩ := h
  rw [load_file (List.forall_mem_cons.mpr ⟨by simp,hprintable⟩),List.foldlM_append,hfold]
  rfl

theorem Replays.row {file : Bytes} {cache : Cache} (h : Replays runtime file cache) (config : DecodingConfig) (call : Call)
    (text : String) :
    Replays runtime (file ++ rowBytes runtime config call text) (cache.put (keyOf runtime config call,text)) := by
  obtain ⟨lines,rfl,hprintable,hfold⟩ := h
  refine ⟨lines ++ [rowLine runtime config call text],?_,?_,?_⟩
  · rw [rowBytes,fileOf,fileOf,← utf8_append,← String.ofList_append]
    simp
  · intro line hline
    obtain hline | hline := List.mem_append.mp hline
    · exact hprintable line hline
    · rw [List.mem_singleton.mp hline]
      exact Json.spaced_printable (rowFields_scalar config call text)
  · rw [List.foldlM_append,hfold,ok_bind,List.foldlM_cons,replay_row,ok_bind]
    rfl

end Lines

section Calls
variable {live : Live}

def Extends (cache next : Cache) : Prop := ∀ key row, cache.find key = some row → next.find key = some row

theorem Extends.refl (cache : Cache) : Extends cache cache := fun _ _ h => h

theorem Extends.trans {cache next last : Cache} (h : Extends cache next) (h' : Extends next last) : Extends cache last :=
  fun key row hrow => h' key row (h key row hrow)

theorem Extends.put {cache : Cache} {key : String} (hkey : cache.find key = none) (text : String) :
    Extends cache (cache.put (key,text)) := by
  intro other row hrow
  rw [Table.find_put,if_neg]
  · exact hrow
  · rintro rfl
    rw [hkey] at hrow
    cases hrow

theorem generate_cases (config : DecodingConfig) (live : Live) (call : Call) :
    (∃ text, live.cachedText (keyOf runtime config call) call = some text ∧
      generate runtime config live call = (live,⟨keyOf runtime config call,some text,true⟩)) ∨
    generate runtime config live call = (live,⟨keyOf runtime config call,none,false⟩) ∨
    (∃ text, call.bypassCache = true ∧ generate runtime config live call =
      ({live with generated := live.generated ++ [(keyOf runtime config call,text)]},⟨keyOf runtime config call,some text,false⟩)) ∨
    ∃ text, call.bypassCache = false ∧ live.cache.find (keyOf runtime config call) = none ∧ call.response = some text ∧
      generate runtime config live call = (live.append runtime config call text,⟨keyOf runtime config call,some text,false⟩) := by
  rw [generate]
  cases hcached : live.cachedText (keyOf runtime config call) call with
  | some text => exact .inl ⟨text,rfl,rfl⟩
  | none =>
    cases hresponse : call.response with
    | none => exact .inr (.inl rfl)
    | some text =>
      cases hbypass : call.bypassCache with
      | true => exact .inr (.inr (.inl ⟨text,rfl,rfl⟩))
      | false =>
        rw [Live.cachedText,hbypass] at hcached
        exact .inr (.inr (.inr ⟨text,rfl,Option.map_eq_none_iff.mp hcached,rfl,rfl⟩))

structure Faithful (runtime : Runtime) (live : Live) : Prop where
  replays : Replays runtime live.file live.cache
  honest : ∀ pair ∈ live.cache.rows, pair ∈ live.generated

theorem Faithful.append (h : Faithful runtime live) (config : DecodingConfig) (call : Call) (text : String) :
    Faithful runtime (live.append runtime config call text) where
  replays := h.replays.row config call text
  honest pair hpair := by
    obtain ⟨hpair,_⟩ | rfl := Table.mem_put.mp hpair
    · exact List.mem_append_left _ (h.honest pair hpair)
    · exact List.mem_append_right _ (List.mem_singleton_self _)

theorem Faithful.generated (h : Faithful runtime live) (more : List (String × String)) :
    Faithful runtime {live with generated := live.generated ++ more} :=
  ⟨h.replays,fun pair hpair => List.mem_append_left _ (h.honest pair hpair)⟩

theorem Faithful.generate (h : Faithful runtime live) (config : DecodingConfig) (call : Call) :
    Faithful runtime (generate runtime config live call).1 ∧
      Extends live.cache (generate runtime config live call).1.cache := by
  obtain ⟨text,_,hcase⟩ | hcase | ⟨text,_,hcase⟩ | ⟨text,_,hfresh,_,hcase⟩ := @generate_cases runtime config live call
  · rw [hcase]
    exact ⟨h,.refl _⟩
  · rw [hcase]
    exact ⟨h,.refl _⟩
  · rw [hcase]
    exact ⟨h.generated _,.refl _⟩
  · rw [hcase]
    exact ⟨h.append config call text,.put hfresh text⟩

theorem Faithful.play (h : Faithful runtime live) (config : DecodingConfig) (calls : List Call) :
    Faithful runtime (play runtime config live calls) ∧ Extends live.cache (play runtime config live calls).cache := by
  induction calls generalizing live with
  | nil => exact ⟨h,.refl _⟩
  | cons call calls ih =>
    obtain ⟨hnext,hextends⟩ := h.generate config call
    obtain ⟨hlast,hlater⟩ := ih hnext
    exact ⟨hlast,hextends.trans hlater⟩

end Calls

section Crashes

def Clean (runtime : Runtime) (session : Session) : Prop :=
  ∀ call kept, session.torn = some (call,kept) → ∀ text, call.response = some text →
    kept = 0 ∨ (rowBytes runtime session.config call text).length ≤ kept

structure Held (runtime : Runtime) (disk : Disk) (cache : Cache) : Prop where
  replays : Replays runtime disk.file cache
  honest : ∀ pair ∈ cache.rows, pair ∈ disk.generated

theorem Faithful.held {live : Live} (h : Faithful runtime live) : Held runtime ⟨live.file,live.generated⟩ live.cache :=
  ⟨h.replays,h.honest⟩

theorem Held.opening {disk : Disk} {cache : Cache} (h : Held runtime disk cache) :
    opening runtime disk = .ok ⟨cache,disk.file,disk.generated⟩ ∧ Faithful runtime ⟨cache,disk.file,disk.generated⟩ := by
  refine ⟨?_,h.replays,h.honest⟩
  rw [Backend.opening,h.replays.load]
  rfl

theorem Faithful.ending {live : Live} (h : Faithful runtime live) {session : Session} (hclean : Clean runtime session) :
    ∃ cache, Held runtime (ending runtime session live) cache ∧ Extends live.cache cache := by
  rw [Backend.ending]
  cases htorn : session.torn with
  | none => exact ⟨live.cache,h.held,.refl _⟩
  | some crash =>
    obtain ⟨call,kept⟩ := crash
    dsimp only
    obtain ⟨text,_,hcase⟩ | hcase | ⟨text,_,hcase⟩ | ⟨text,_,hfresh,hresponse,hcase⟩ :=
      @generate_cases runtime session.config live call
    · rw [hcase,List.drop_length,List.take_nil,List.append_nil]
      exact ⟨live.cache,h.held,.refl _⟩
    · rw [hcase,List.drop_length,List.take_nil,List.append_nil]
      exact ⟨live.cache,h.held,.refl _⟩
    · rw [hcase,List.drop_length,List.take_nil,List.append_nil]
      exact ⟨live.cache,(h.generated _).held,.refl _⟩
    · rw [hcase,Live.append,List.drop_left]
      obtain rfl | hwhole := hclean call kept htorn text hresponse
      · rw [List.take_zero,List.append_nil]
        exact ⟨live.cache,(h.generated _).held,.refl _⟩
      · rw [List.take_of_length_le hwhole]
        exact ⟨_,(h.append session.config call text).held,.put hfresh text⟩

theorem Held.session {disk : Disk} {cache : Cache} (h : Held runtime disk cache) {session : Session} (hclean : Clean runtime session) :
    ∃ next last, runSession runtime disk session = .ok next ∧ Held runtime next last ∧ Extends cache last := by
  obtain ⟨hopening,hfaithful⟩ := h.opening
  obtain ⟨hplayed,hextends⟩ := hfaithful.play session.config session.calls
  obtain ⟨last,hlast,hlater⟩ := hplayed.ending hclean
  exact ⟨_,last,by rw [runSession,hopening]; rfl,hlast,hextends.trans hlater⟩

theorem Held.sessions {disk : Disk} {cache : Cache} (h : Held runtime disk cache) {sessions : List Session}
    (hclean : ∀ session ∈ sessions, Clean runtime session) :
    ∃ next last, sessions.foldlM (runSession runtime) disk = .ok next ∧ Held runtime next last ∧ Extends cache last := by
  induction sessions generalizing disk cache with
  | nil => exact ⟨disk,cache,rfl,h,.refl _⟩
  | cons session sessions ih =>
    obtain ⟨hfirst,hrest⟩ := List.forall_mem_cons.mp hclean
    obtain ⟨next,last,hrun,hheld,hextends⟩ := h.session hfirst
    obtain ⟨final,latest,hruns,hfinal,hlater⟩ := ih hheld hrest
    refine ⟨final,latest,?_,hfinal,hextends.trans hlater⟩
    rw [List.foldlM_cons,hrun,ok_bind]
    exact hruns

theorem runs_held {sessions : List Session} (hclean : ∀ session ∈ sessions, Clean runtime session) :
    ∃ disk cache, runSessions runtime sessions = .ok disk ∧ Held runtime disk cache := by
  have hstart : Held runtime ⟨[],[]⟩ Table.empty := ⟨.empty,by simp [Table.empty]⟩
  obtain ⟨disk,cache,hruns,hheld,_⟩ := hstart.sessions hclean
  exact ⟨disk,cache,hruns,hheld⟩

end Crashes

section Survival
variable (runtime : Runtime)

structure CacheSurvives (sessions : List Session) : Prop where
  opens : ∀ before, before <+: sessions → ∀ config, ∃ live, liveIn runtime before config [] = .ok live
  answered : ∀ before session between, before ++ session :: between <+: sessions →
    ∀ prior call rest live text, session.calls = prior ++ call :: rest → call.bypassCache = false →
      liveIn runtime before session.config prior = .ok live →
      (generate runtime session.config live call).2 = ⟨keyOf runtime session.config call,some text,false⟩ →
      ∀ config earlier again, again.bypassCache = false → keyOf runtime config again = keyOf runtime session.config call →
        ∃ later, liveIn runtime (before ++ session :: between) config earlier = .ok later ∧
          (generate runtime config later again).2 = ⟨keyOf runtime session.config call,some text,true⟩
  honest : ∀ before, before <+: sessions → ∀ config prior call live text, liveIn runtime before config prior = .ok live →
    (generate runtime config live call).2 = ⟨keyOf runtime config call,some text,true⟩ →
      (keyOf runtime config call,text) ∈ live.generated

variable {runtime}

theorem liveIn_held {before : List Session} {disk : Disk} {cache : Cache} (hruns : runSessions runtime before = .ok disk)
    (hheld : Held runtime disk cache) (config : DecodingConfig) (prior : List Call) :
    liveIn runtime before config prior = .ok (play runtime config ⟨cache,disk.file,disk.generated⟩ prior) := by
  rw [liveIn,hruns,ok_bind,hheld.opening.1]
  rfl

theorem cachedText_of_find {live : Live} {key text : String} {call : Call} (hbypass : call.bypassCache = false)
    (hfind : live.cache.find key = some (key,text)) : live.cachedText key call = some text := by
  rw [Live.cachedText,hbypass,hfind]
  rfl

theorem generate_cached {live : Live} {config : DecodingConfig} {call : Call} {text : String}
    (h : live.cachedText (keyOf runtime config call) call = some text) :
    (generate runtime config live call).2 = ⟨keyOf runtime config call,some text,true⟩ := by
  rw [generate]
  simp only [h]

theorem play_append (config : DecodingConfig) (live : Live) (prior rest : List Call) :
    play runtime config live (prior ++ rest) = play runtime config (play runtime config live prior) rest := List.foldl_append

theorem cache_survives (sessions : List Session) (hclean : ∀ session ∈ sessions, Clean runtime session) :
    CacheSurvives runtime sessions where
  opens before hpart config := by
    obtain ⟨disk,cache,hruns,hheld⟩ := runs_held fun session hsession => hclean session (hpart.subset hsession)
    exact ⟨_,liveIn_held hruns hheld config []⟩
  answered before session between hpart prior call rest live text hcalls hbypass hlive hreply config earlier again hagain hkey := by
    have hall : ∀ other ∈ before ++ session :: between, Clean runtime other := fun other hother => hclean other (hpart.subset hother)
    obtain ⟨hbefore,hrest⟩ := List.forall_mem_append.mp hall
    obtain ⟨hsession,hbetween⟩ := List.forall_mem_cons.mp hrest
    obtain ⟨disk,cache,hruns,hheld⟩ := runs_held hbefore
    obtain ⟨hopening,hfaithful⟩ := hheld.opening
    rw [liveIn_held hruns hheld] at hlive
    obtain rfl := Except.ok.inj hlive
    obtain ⟨hprior,_⟩ := hfaithful.play session.config prior
    -- the completed append puts the text under its key
    have happended : (generate runtime session.config (play runtime session.config ⟨cache,disk.file,disk.generated⟩ prior) call).1.cache.find
        (keyOf runtime session.config call) = some (keyOf runtime session.config call,text) := by
      obtain ⟨_,_,hcase⟩ | hcase | ⟨_,hcontra,_⟩ | ⟨found,_,_,_,hcase⟩ :=
        @generate_cases runtime session.config (play runtime session.config ⟨cache,disk.file,disk.generated⟩ prior) call
      · rw [hcase] at hreply
        cases hreply
      · rw [hcase] at hreply
        cases hreply
      · rw [hbypass] at hcontra
        cases hcontra
      · rw [hcase] at hreply ⊢
        cases hreply
        rw [Live.append,Table.find_put,if_pos rfl]
    have hplayed : play runtime session.config ⟨cache,disk.file,disk.generated⟩ session.calls = play runtime session.config
        (generate runtime session.config (play runtime session.config ⟨cache,disk.file,disk.generated⟩ prior) call).1 rest := by
      rw [hcalls,play_append]
      rfl
    obtain ⟨hnext,_⟩ := hprior.generate session.config call
    obtain ⟨hdone,hafter⟩ := hnext.play session.config rest
    rw [← hplayed] at hdone hafter
    obtain ⟨saved,hsaved,hkept⟩ := hdone.ending hsession
    obtain ⟨final,latest,hfinal,hlatest,hlater⟩ := hsaved.sessions hbetween
    have hrunAll : runSessions runtime (before ++ session :: between) = .ok final := by
      have hstart : before.foldlM (runSession runtime) ⟨[],[]⟩ = .ok disk := hruns
      rw [runSessions,List.foldlM_append,hstart,ok_bind,List.foldlM_cons,runSession,hopening]
      exact hfinal
    refine ⟨_,liveIn_held hrunAll hlatest config earlier,?_⟩
    obtain ⟨_,hearlier⟩ := hlatest.opening.2.play config earlier
    have hfound := hearlier _ _ (hlater _ _ (hkept _ _ (hafter _ _ happended)))
    rw [← hkey] at hfound ⊢
    exact generate_cached (cachedText_of_find hagain hfound)
  honest before hpart config prior call live text hlive hreply := by
    obtain ⟨disk,cache,hruns,hheld⟩ := runs_held fun session hsession => hclean session (hpart.subset hsession)
    rw [liveIn_held hruns hheld] at hlive
    obtain rfl := Except.ok.inj hlive
    obtain ⟨hfaithful,_⟩ := hheld.opening.2.play config prior
    obtain ⟨found,hcached,hcase⟩ | hcase | ⟨_,_,hcase⟩ | ⟨_,_,_,_,hcase⟩ :=
      @generate_cases runtime config (play runtime config ⟨cache,disk.file,disk.generated⟩ prior) call
    · rw [hcase] at hreply
      cases hreply
      rw [Live.cachedText] at hcached
      split at hcached
      · cases hcached
      · obtain ⟨⟨key,stored⟩,hfind,rfl⟩ := Option.map_eq_some_iff.mp hcached
        obtain ⟨hmem,rfl⟩ := Table.find_eq_some.mp hfind
        exact hfaithful.honest _ hmem
    · rw [hcase] at hreply
      cases hreply
    · rw [hcase] at hreply
      cases hreply
    · rw [hcase] at hreply
      cases hreply

end Survival

section Torn

theorem rowLine_opens (config : DecodingConfig) (call : Call) (text : String) :
    ∃ tail, rowLine runtime config call text = '{' :: tail ∧ ∃ middle, tail = middle ++ ['}'] := by
  obtain ⟨front,hfront⟩ := Json.spacedFields_last (rowFields runtime config call text).tail
  have hlast : Json.spacedFields [("config_hash",.str config.configHash),("model",.str config.model),
      ("prompt_hash",.str (runtime.hashText call.prompt)),("seed",.int call.seed),("text",.str text)] = front ++ ['}'] := hfront
  refine ⟨_,rfl,Json.quote "cache_key" ++ ':' :: ' ' :: (Json.spaced (.str (keyOf runtime config call)) ++ front),?_⟩
  rw [hlast]
  simp

theorem replay_joined (cache : Cache) (config : DecodingConfig) (call : Call) (text : String) :
    replayLine runtime cache ('{' :: rowLine runtime config call text) = .ok cache := by
  obtain ⟨tail,hline,middle,rfl⟩ := @rowLine_opens runtime config call text
  have hstrip : stripChars ('{' :: '{' :: (middle ++ ['}'])) = '{' :: '{' :: (middle ++ ['}']) :=
    stripChars_ends (by decide) (by decide) ('{' :: middle)
  rw [hline,replayLine,hstrip,if_neg (List.cons_ne_nil _ _),Json.loadsWith_nested]

theorem utf8_brace : (utf8 (String.ofList ['{'])).length = 1 := by decide

variable {config : DecodingConfig} {call : Call} {text : String}

theorem fresh_generate {live : Live} (hbypass : call.bypassCache = false) (hresponse : call.response = some text)
    (hfresh : live.cache.find (keyOf runtime config call) = none) :
    generate runtime config live call =
      (live.append runtime config call text,⟨keyOf runtime config call,some text,false⟩) := by
  have hcached : live.cachedText (keyOf runtime config call) call = none := by
    rw [Live.cachedText,hbypass,hfresh]
    rfl
  rw [generate]
  simp only [hcached,hresponse,hbypass]
  rfl

theorem torn_run (hbypass : call.bypassCache = false) (hresponse : call.response = some text) :
    runSessions runtime [⟨config,[],some (call,1)⟩] = .ok ⟨fileOf [] ['{'],[(keyOf runtime config call,text)]⟩ := by
  obtain ⟨tail,hline,_⟩ := @rowLine_opens runtime config call text
  have hrow : rowBytes runtime config call text = utf8 (String.ofList ['{']) ++ utf8 (String.ofList (tail ++ ['\n'])) := by
    rw [rowBytes,hline,← utf8_append,← String.ofList_append]
    rfl
  have htaken : (rowBytes runtime config call text).take 1 = fileOf [] ['{'] := by
    rw [hrow,List.take_left' utf8_brace]
    rfl
  have hload : loadCache runtime [] = .ok Table.empty := Replays.empty.load
  have hgenerate : generate runtime config ⟨Table.empty,[],[]⟩ call =
      (Live.append runtime ⟨Table.empty,[],[]⟩ config call text,⟨keyOf runtime config call,some text,false⟩) :=
    fresh_generate hbypass hresponse rfl
  have hending : ending runtime ⟨config,[],some (call,1)⟩ ⟨Table.empty,[],[]⟩ =
      ⟨fileOf [] ['{'],[(keyOf runtime config call,text)]⟩ := by
    simp only [ending,hgenerate,Live.append,List.nil_append,List.length_nil,List.drop_zero,htaken]
  have hsession : runSession runtime ⟨[],[]⟩ ⟨config,[],some (call,1)⟩ =
      .ok (ending runtime ⟨config,[],some (call,1)⟩ ⟨Table.empty,[],[]⟩) := by
    rw [runSession,opening,hload]
    rfl
  rw [runSessions,List.foldlM_cons,hsession,hending]
  rfl

theorem torn_loads (generated : List (String × String)) :
    opening runtime ⟨fileOf [] ['{'],generated⟩ = .ok ⟨Table.empty,fileOf [] ['{'],generated⟩ := by
  have hload : loadCache runtime (fileOf [] ['{']) = .ok Table.empty := by
    rw [load_file (by simp)]
    rfl
  rw [opening,hload]
  rfl

theorem torn_opening (hbypass : call.bypassCache = false) (hresponse : call.response = some text) (prior : List Call) :
    liveIn runtime [⟨config,[],some (call,1)⟩] config prior =
      .ok (play runtime config ⟨Table.empty,fileOf [] ['{'],[(keyOf runtime config call,text)]⟩ prior) := by
  rw [liveIn,torn_run hbypass hresponse,ok_bind,torn_loads]
  rfl

theorem joined_opening (config : DecodingConfig) (call : Call) (text : String) (generated : List (String × String)) :
    opening runtime ⟨fileOf [] ['{'] ++ rowBytes runtime config call text,generated⟩ =
      .ok ⟨Table.empty,fileOf [] ['{'] ++ rowBytes runtime config call text,generated⟩ := by
  have hjoined : fileOf [] ['{'] ++ rowBytes runtime config call text = fileOf ['{' :: rowLine runtime config call text] [] := by
    rw [rowBytes,fileOf,fileOf,← utf8_append,← String.ofList_append]
    simp
  have hprintable : ∀ line ∈ [[],'{' :: rowLine runtime config call text], ∀ c ∈ line, 32 ≤ c.toNat := by
    simp only [List.forall_mem_cons,List.not_mem_nil,IsEmpty.forall_iff,implies_true,and_true,true_and]
    exact ⟨by decide,Json.spaced_printable (rowFields_scalar config call text)⟩
  have hblank : replayLine runtime Table.empty [] = .ok Table.empty := rfl
  rw [opening,hjoined,load_file hprintable,List.foldlM_append,List.foldlM_cons,replay_joined]
  simp only [List.foldlM_cons,List.foldlM_nil,ok_bind,hblank,pure,Except.pure]

theorem torn_loses {other : Call} {lost : String} (hother : other.bypassCache = false) (hlost : other.response = some lost)
    (hbypass : call.bypassCache = false) (hresponse : call.response = some text) :
    ¬ CacheSurvives runtime [⟨config,[],some (other,1)⟩,⟨config,[call],none⟩] := by
  intro hsurvives
  have hreply : (generate runtime config ⟨Table.empty,fileOf [] ['{'],[(keyOf runtime config other,lost)]⟩ call).2 =
      ⟨keyOf runtime config call,some text,false⟩ := by
    rw [fresh_generate hbypass hresponse rfl]
  obtain ⟨later,hlater,hanswer⟩ := hsurvives.answered [⟨config,[],some (other,1)⟩] ⟨config,[call],none⟩ [] (List.prefix_refl _)
    [] call [] _ text rfl hbypass (torn_opening hother hlost []) hreply config [] call hbypass rfl
  have hfirst : [⟨config,[],some (other,1)⟩].foldlM (runSession runtime) ⟨[],[]⟩ =
      .ok ⟨fileOf [] ['{'],[(keyOf runtime config other,lost)]⟩ := torn_run hother hlost
  have hsecond : runSession runtime ⟨fileOf [] ['{'],[(keyOf runtime config other,lost)]⟩ ⟨config,[call],none⟩ =
      .ok ⟨fileOf [] ['{'] ++ rowBytes runtime config call text,
        [(keyOf runtime config other,lost),(keyOf runtime config call,text)]⟩ := by
    rw [runSession,torn_loads,ok_bind,ending,play,List.foldl_cons,fresh_generate hbypass hresponse rfl]
    rfl
  have hrun : runSessions runtime [⟨config,[],some (other,1)⟩,⟨config,[call],none⟩] =
      .ok ⟨fileOf [] ['{'] ++ rowBytes runtime config call text,
        [(keyOf runtime config other,lost),(keyOf runtime config call,text)]⟩ := by
    rw [runSessions,← List.singleton_append,List.foldlM_append,hfirst,ok_bind,List.foldlM_cons,hsecond]
    rfl
  have hopen : liveIn runtime [⟨config,[],some (other,1)⟩,⟨config,[call],none⟩] config [] =
      .ok ⟨Table.empty,fileOf [] ['{'] ++ rowBytes runtime config call text,
        [(keyOf runtime config other,lost),(keyOf runtime config call,text)]⟩ := by
    rw [liveIn,hrun,ok_bind,joined_opening]
    rfl
  obtain rfl := Except.ok.inj (hopen.symm.trans hlater)
  rw [fresh_generate hbypass hresponse rfl] at hanswer
  cases hanswer

end Torn

section Sample

def sampleRuntime : Runtime := ⟨id,id⟩

def sampleConfig : DecodingConfig := ⟨"model","config"⟩

def tornCall : Call := ⟨"first",1,false,some "lost"⟩

def nextCall : Call := ⟨"second",1,false,some "kept"⟩

theorem torn_row_not_skipped : ¬ ∀ sessions, CacheSurvives sampleRuntime sessions := by
  intro hsurvives
  exact @torn_loses sampleRuntime sampleConfig nextCall "kept" tornCall "lost" rfl rfl rfl rfl
    (hsurvives [⟨sampleConfig,[],some (tornCall,1)⟩,⟨sampleConfig,[nextCall],none⟩])

theorem clean_crash_survived :
    CacheSurvives sampleRuntime [⟨sampleConfig,[nextCall],some (tornCall,0)⟩,⟨sampleConfig,[tornCall],none⟩] := by
  refine cache_survives _ fun session hsession => ?_
  simp only [List.mem_cons,List.not_mem_nil,or_false] at hsession
  obtain rfl | rfl := hsession
  · rintro call kept htorn _ _
    cases htorn
    exact .inl rfl
  · rintro call kept ⟨⟩

end Sample

end PneumaLab.Placebo.Backend
