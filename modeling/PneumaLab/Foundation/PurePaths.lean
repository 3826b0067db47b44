import PneumaLab.Library.SeparatedText
import Mathlib.Data.List.Infix

namespace PneumaLab.Foundation.Suite

open SeparatedText

abbrev PathName := { name : String // name ≠ "" ∧ name ≠ "." ∧ '/' ∉ name.toList }

def PathName.read (text : String) : Option PathName :=
  if h : text ≠ "" ∧ text ≠ "." ∧ '/' ∉ text.toList then some ⟨text,h⟩ else none

def splitText (separator : Char → Bool) (text : String) : List String :=
  (text.toList.splitOnP separator).map String.ofList

inductive Slashes where
  | none
  | one
  | two
  deriving DecidableEq

def Slashes.count : Slashes → ℕ
  | .none => 0
  | .one => 1
  | .two => 2

structure PosixPath where
  slashes : Slashes
  names : List PathName
  deriving DecidableEq

def leadingSlashes (text : String) : Slashes :=
  match (text.toList.takeWhile (· == '/')).length with
  | 0 => .none
  | 2 => .two
  | _ => .one

namespace PosixPath

def parse (text : String) : PosixPath := ⟨leadingSlashes text,(splitText (· == '/') text).filterMap PathName.read⟩

def text (path : PosixPath) : String :=
  if path.slashes = .none ∧ path.names = [] then "."
  else String.ofList (List.replicate path.slashes.count '/' ++ ['/'].intercalate (path.names.map (·.val.toList)))

def isAbsolute (path : PosixPath) : Bool := decide (path.slashes ≠ .none)

def join (path : PosixPath) (names : List PathName) : PosixPath := ⟨path.slashes,path.names ++ names⟩

def relativeTo (path root : PosixPath) : Option (List PathName) :=
  if path.slashes = root.slashes ∧ root.names <+: path.names then some (path.names.drop root.names.length) else none

def pushName (absolute : Bool) (done : List PathName) (name : PathName) : List PathName :=
  if name.val ≠ ".." ∨ (absolute = false ∧ done = []) ∨ done.getLast?.map (·.val) = some ".." then done ++ [name]
  else done.dropLast

-- os.path.normpath
def normal (path : PosixPath) : PosixPath := ⟨path.slashes,path.names.foldl (pushName path.isAbsolute) []⟩

end PosixPath

section PathTexts

theorem PathName.read_val (name : PathName) : PathName.read name.val = some name := dif_pos name.property

theorem slash_free (name : PathName) : '/' ∉ name.val.toList := name.property.2.2

theorem splitText_slashes (k : ℕ) (rest : List Char) :
    (List.replicate k '/' ++ rest).splitOnP (· == '/') = List.replicate k [] ++ rest.splitOnP (· == '/') := by
  induction k with
  | zero => rfl
  | succ k ih =>
    rw [List.replicate_succ,List.cons_append,List.splitOnP_cons_eq_if_modifyHead,if_pos (by decide),ih]
    rfl

theorem splitText_names (names : List PathName) :
    ((([('/' : Char)].intercalate (names.map (·.val.toList))).splitOnP (· == '/')).map String.ofList).filterMap
      PathName.read = names := by
  cases names with
  | nil => rfl
  | cons name names =>
    have hfree : ∀ l ∈ (name :: names).map (·.val.toList), '/' ∉ l := by
      intro l hl
      obtain ⟨name',_,rfl⟩ := List.mem_map.mp hl
      exact slash_free name'
    have hsplit := List.splitOn_intercalate '/' hfree (by simp)
    rw [List.splitOn_eq_splitOnP] at hsplit
    rw [hsplit,List.map_map,List.filterMap_map]
    have hread : ∀ n : PathName, (PathName.read ∘ String.ofList ∘ fun n : PathName => n.val.toList) n = some n := by
      intro n
      simp only [Function.comp,String.ofList_toList]
      exact PathName.read_val n
    exact (List.filterMap_congr fun n _ => hread n).trans List.filterMap_some

theorem intercalate_head (names : List PathName) :
    ([('/' : Char)].intercalate (names.map (·.val.toList))).takeWhile (· == '/') = [] := by
  cases names with
  | nil => rfl
  | cons name names =>
    obtain ⟨c,cs,hcs⟩ : ∃ c cs, name.val.toList = c :: cs := by
      cases h : name.val.toList with
      | nil => exact (name.property.1 (String.toList_eq_nil_iff.mp h)).elim
      | cons c cs => exact ⟨c,cs,rfl⟩
    have hc : (c == '/') = false := by
      have hfree := slash_free name
      rw [hcs] at hfree
      simpa using fun h => hfree (by simp [h])
    cases names with
    | nil => simp [hcs,hc]
    | cons next names => simp [List.intercalate,hcs,hc]

theorem slashes_length (path : PosixPath) (h : path.slashes ≠ .none) : leadingSlashes path.text = path.slashes := by
  have htake : (path.text.toList.takeWhile (· == '/')).length = path.slashes.count := by
    rw [PosixPath.text,if_neg fun hzero => h hzero.1,String.toList_ofList,
      List.takeWhile_append_of_pos fun c hc => by simp [List.eq_of_mem_replicate hc],intercalate_head]
    simp
  rw [leadingSlashes,htake]
  match path.slashes,h with
  | .one,_ => rfl
  | .two,_ => rfl

theorem parse_text (path : PosixPath) (h : path.slashes ≠ .none) : PosixPath.parse path.text = path := by
  have hslashes := slashes_length path h
  rw [PosixPath.parse,hslashes,splitText,PosixPath.text,if_neg fun hzero => h hzero.1,String.toList_ofList,splitText_slashes,
    List.map_append,List.filterMap_append,splitText_names]
  simp [PathName.read]

theorem text_injective {left right : PosixPath} (hleft : left.slashes ≠ .none) (hright : right.slashes ≠ .none)
    (h : left.text = right.text) : left = right := by
  rw [← parse_text left hleft,h,parse_text right hright]

theorem pushName_kept {absolute : Bool} {names : List PathName} (h : ∀ name ∈ names, name.val ≠ "..")
    (done : List PathName) :
    names.foldl (PosixPath.pushName absolute) done = done ++ names := by
  induction names generalizing done with
  | nil => simp
  | cons name names ih =>
    rw [List.foldl_cons,PosixPath.pushName,if_pos (Or.inl (h name List.mem_cons_self)),
      ih fun n hn => h n (List.mem_cons_of_mem _ hn)]
    simp

theorem normal_plain {path : PosixPath} (h : ∀ name ∈ path.names, name.val ≠ "..") : path.normal = path := by
  rw [PosixPath.normal,pushName_kept h,List.nil_append]

end PathTexts

def separated (c : Char) : Bool := c == '\\' || c == '/'

abbrev WindowsName := { name : List Char // name ≠ [] ∧ name ≠ ['.'] ∧ name.any separated = false }

def WindowsName.read (text : List Char) : Option WindowsName :=
  if h : text ≠ [] ∧ text ≠ ['.'] ∧ text.any separated = false then some ⟨text,h⟩ else none

def backslashed (text : List Char) : List Char := text.map fun c => if c = '/' then '\\' else c

structure SplitRoot where
  drive : List Char
  root : List Char
  rest : List Char

def extendedUnc : List Char := ['\\','\\','?','\\','U','N','C','\\']

def nextBackslash (text : List Char) (start : ℕ) : Option ℕ :=
  ((text.drop start).findIdx? (· == '\\')).map (start + ·)

def shareEnd (text : List Char) : Option ℕ := do
  let index ← nextBackslash text (if (text.take 8).map Char.toUpper = extendedUnc then 8 else 2)
  nextBackslash text (index + 1)

-- ntpath.splitroot of a text without slashes
def splitRoot : List Char → SplitRoot
  | '\\' :: '\\' :: rest =>
    let text := '\\' :: '\\' :: rest
    match shareEnd text with
    | some index => ⟨text.take index,(text.drop index).take 1,text.drop (index + 1)⟩
    | none => ⟨text,[],[]⟩
  | '\\' :: rest => ⟨[],['\\'],rest⟩
  | letter :: ':' :: '\\' :: rest => ⟨[letter,':'],['\\'],rest⟩
  | letter :: ':' :: rest => ⟨[letter,':'],[],rest⟩
  | text => ⟨[],[],text⟩

def pushWindowsName (rooted : Bool) (done : List (List Char)) (name : List Char) : List (List Char) :=
  if name ≠ ['.','.'] ∨ (rooted = false ∧ done = []) ∨ done.getLast? = some ['.','.'] then done ++ [name]
  else done.dropLast

-- os.path.normpath
def windowsNormal (text : List Char) : List Char :=
  let parsed := splitRoot (backslashed text)
  let names := ((parsed.rest.splitOnP (· == '\\')).filter fun name => name ≠ [] ∧ name ≠ ['.']).foldl
    (pushWindowsName (decide (parsed.root ≠ []))) []
  if parsed.drive ++ parsed.root = [] ∧ names = [] then ['.']
  else parsed.drive ++ parsed.root ++ ['\\'].intercalate names

structure WindowsPath where
  drive : List Char
  rooted : Bool
  names : List WindowsName

namespace WindowsPath

-- A share is rooted although no separator follows it.
def isShare (drive : List Char) : Bool :=
  let parts := drive.splitOnP (· == '\\')
  drive.head? == some '\\' && drive.getLast? != some '\\' &&
    (decide (parts.length = 4 ∧ parts[2]? ∉ [some [],some ['?'],some ['.'],some ['?','.']]) || decide (parts.length = 6))

def parse (text : String) : WindowsPath :=
  let parsed := splitRoot (backslashed text.toList)
  ⟨parsed.drive,decide (parsed.root ≠ []) || isShare parsed.drive,
    (parsed.rest.splitOnP (· == '\\')).filterMap WindowsName.read⟩

def root (path : WindowsPath) : List Char := if path.rooted then ['\\'] else []

def chars (path : WindowsPath) : List Char :=
  let joined := ['\\'].intercalate (path.names.map (·.val))
  if path.drive ≠ [] ∨ path.rooted = true then path.drive ++ path.root ++ joined
  else if path.names = [] then ['.']
  else if (splitRoot joined).drive ≠ [] then ['.','\\'] ++ joined
  else joined

def isAbsolute (path : WindowsPath) : Bool := decide (path.drive ≠ []) && path.rooted

def join (path : WindowsPath) (names : List WindowsName) : WindowsPath := ⟨path.drive,path.rooted,path.names ++ names⟩

-- The path itself and its parents.
def ancestors (path : WindowsPath) : List WindowsPath := path.names.inits.map fun names => ⟨path.drive,path.rooted,names⟩

section Cases
variable (lower : Folding separated)

def same (left right : WindowsPath) : Bool := decide (lower.fold left.chars = lower.fold right.chars)

def isWithin (path root : WindowsPath) : Bool := path.ancestors.any (same lower · root)

def relativeTo (path root : WindowsPath) : Option (List WindowsName) :=
  if isWithin lower path root then some (path.names.drop root.names.length) else none

end Cases

end WindowsPath

-- What pathlib and os.path make of a path text.
structure Flavour where
  Path : Type
  parse : String → Path
  text : Path → String
  isAbsolute : Path → Bool
  relativeTo : Path → Path → Option (List String)
  join : Path → List String → Path
  same : Path → Path → Bool
  isWithin : Path → Path → Bool
  identity : String → String
  Resolved : Path → Prop

def posix : Flavour where
  Path := PosixPath
  parse := PosixPath.parse
  text := PosixPath.text
  isAbsolute := PosixPath.isAbsolute
  relativeTo path root := (path.relativeTo root).map (List.map Subtype.val)
  join path names := path.join (names.filterMap PathName.read)
  same left right := decide (left = right)
  isWithin path root := (path.relativeTo root).isSome
  identity text := (PosixPath.parse text).normal.text
  Resolved path := path.slashes = .one ∧ ∀ name ∈ path.names, name.val ≠ ".."

-- Paths are equal up to str.lower, identities up to os.path.normcase.
def windows (lower normcase : Folding separated) : Flavour where
  Path := WindowsPath
  parse := WindowsPath.parse
  text path := String.ofList path.chars
  isAbsolute := WindowsPath.isAbsolute
  relativeTo path root := (path.relativeTo lower root).map (List.map fun name => String.ofList name.val)
  join path names := path.join (names.filterMap fun name => WindowsName.read name.toList)
  same := WindowsPath.same lower
  isWithin := WindowsPath.isWithin lower
  identity text := String.ofList (normcase.fold (windowsNormal text.toList))
  Resolved path := path.isAbsolute = true ∧ windowsNormal path.chars = path.chars

-- What Path.resolve(strict=True) returns: every link followed, no parent names left.
structure PhysicalPath (flavour : Flavour) where
  path : flavour.Path
  resolved : flavour.Resolved path

section Containment

theorem posix_within {path root : PosixPath} (h : posix.isWithin path root = true) : root.names <+: path.names := by
  change (path.relativeTo root).isSome = true at h
  rw [PosixPath.relativeTo] at h
  split at h
  · next hprefix => exact hprefix.2
  · cases h

theorem posix_same {left right : PosixPath} (h : posix.same left right = true) : left = right := by
  change decide (left = right) = true at h
  exact of_decide_eq_true h

theorem posix_identity {path physical : PosixPath} (habsolute : path.isAbsolute = true) (hresolved : posix.Resolved physical)
    (h : posix.identity (posix.text path) = posix.identity (posix.text physical)) : path.normal.names = physical.names := by
  have hpath : path.slashes ≠ .none := of_decide_eq_true habsolute
  have hphysical : physical.slashes ≠ .none := by
    rw [hresolved.1]
    decide
  change (PosixPath.parse path.text).normal.text = (PosixPath.parse physical.text).normal.text at h
  rw [parse_text path hpath,parse_text physical hphysical,normal_plain hresolved.2] at h
  have hnormal : path.normal.slashes ≠ .none := hpath
  rw [text_injective hnormal hphysical h]

-- Two names that Windows does not tell apart, by way of a third.
def Alike (lower normcase : Folding separated) (left right : List Char) : Prop :=
  ∃ middle, normcase.fold left = normcase.fold middle ∧ lower.fold middle = lower.fold right

theorem pieces_absolute {path : WindowsPath} (habsolute : path.isAbsolute = true) :
    pieces separated path.chars = pieces separated path.drive ++ path.names.map (·.val) := by
  obtain ⟨hdrive,hrooted⟩ := Bool.and_eq_true_iff.mp habsolute
  have hnames : ∀ name ∈ path.names.map (·.val), name ≠ [] ∧ ∀ d ∈ name, separated d = false := by
    intro name hname
    obtain ⟨held,_,rfl⟩ := List.mem_map.mp hname
    exact ⟨held.property.1,fun d hd => Bool.eq_false_iff.mpr (List.any_eq_false.mp held.property.2.2 d hd)⟩
  rw [WindowsPath.chars,if_pos (.inr hrooted),WindowsPath.root,if_pos hrooted,List.append_assoc,List.singleton_append,
    pieces_append _ _ rfl,pieces_intercalate rfl hnames]

variable {lower normcase : Folding separated}

theorem windows_front {path root : WindowsPath} (habsolute : path.isAbsolute = true)
    (h : WindowsPath.isWithin lower path root = true) :
    ∃ front, front <+: pieces separated path.chars ∧ front.map lower.fold = (pieces separated root.chars).map lower.fold := by
  obtain ⟨ancestor,hancestor,hsame⟩ := List.any_eq_true.mp h
  obtain ⟨names,hnames,rfl⟩ := List.mem_map.mp hancestor
  have hlead := (List.mem_inits _ _).mp hnames
  have hsame := of_decide_eq_true hsame
  have hpieces := congrArg (pieces separated) hsame
  rw [lower.pieces_fold,lower.pieces_fold] at hpieces
  refine ⟨_,?_,hpieces⟩
  have hheld : (⟨path.drive,path.rooted,names⟩ : WindowsPath).isAbsolute = true := habsolute
  rw [pieces_absolute hheld,pieces_absolute habsolute]
  exact (List.prefix_append_right_inj _).mpr (hlead.map _)

theorem alike_front {names front target : List (List Char)} (hnames : names.map normcase.fold = front.map normcase.fold)
    (h : front.map lower.fold = target.map lower.fold) : List.Forall₂ (Alike lower normcase) names target := by
  induction front generalizing names target with
  | nil =>
    cases List.map_eq_nil_iff.mp hnames
    cases List.map_eq_nil_iff.mp h.symm
    exact .nil
  | cons middle rest ih =>
    obtain ⟨name,names,rfl,hname,hrest⟩ := List.map_eq_cons_iff.mp hnames
    obtain ⟨goal,target,rfl,hgoal,htarget⟩ := List.map_eq_cons_iff.mp h.symm
    exact .cons ⟨middle,hname,hgoal.symm⟩ (ih hrest htarget.symm)

def physicalNames (path : WindowsPath) : List (List Char) := pieces separated (windowsNormal path.chars)

-- Inside the directory up to the case of the names.
def Inside (lower normcase : Folding separated) (names : List (List Char)) (directory : WindowsPath) : Prop :=
  ∃ front, front <+: names ∧ List.Forall₂ (Alike lower normcase) front (pieces separated directory.chars)

theorem identity_names {path physical : WindowsPath} (hresolved : (windows lower normcase).Resolved physical)
    (h : (windows lower normcase).identity ((windows lower normcase).text path) =
      (windows lower normcase).identity ((windows lower normcase).text physical)) :
    (physicalNames path).map normcase.fold = (pieces separated physical.chars).map normcase.fold := by
  have hchars := congrArg String.toList h
  change (String.ofList (normcase.fold (windowsNormal (String.ofList path.chars).toList))).toList =
    (String.ofList (normcase.fold (windowsNormal (String.ofList physical.chars).toList))).toList at hchars
  simp only [String.toList_ofList] at hchars
  rw [hresolved.2] at hchars
  have hpieces := congrArg (pieces separated) hchars
  rwa [normcase.pieces_fold,normcase.pieces_fold] at hpieces

theorem inside_of_within {names : List (List Char)} {physical directory : WindowsPath} (habsolute : physical.isAbsolute = true)
    (hnames : names.map normcase.fold = (pieces separated physical.chars).map normcase.fold)
    (h : WindowsPath.isWithin lower physical directory = true) : Inside lower normcase names directory := by
  obtain ⟨front,hfront,hsame⟩ := windows_front habsolute h
  refine ⟨names.take front.length,List.take_prefix _ _,alike_front ?_ hsame⟩
  rw [List.map_take,hnames,← List.map_take,← List.prefix_iff_eq_take.mp hfront]

theorem alike_of_same {names : List (List Char)} {physical directory : WindowsPath}
    (hnames : names.map normcase.fold = (pieces separated physical.chars).map normcase.fold)
    (h : WindowsPath.same lower physical directory = true) :
    List.Forall₂ (Alike lower normcase) names (pieces separated directory.chars) := by
  have hpieces := congrArg (pieces separated) (of_decide_eq_true h)
  rw [lower.pieces_fold,lower.pieces_fold] at hpieces
  exact alike_front hnames hpieces

end Containment

end PneumaLab.Foundation.Suite
