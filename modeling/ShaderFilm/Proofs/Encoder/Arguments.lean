import Mathlib.Data.List.Basic
import ShaderFilm.Encoder.Config

/-!
# How an encoder reads its arguments

An encoder reads its arguments from left to right.  A word that begins with a dash is a flag or an
option, and an option takes the next word as its value, whatever that begins with; any other word is
the path of an output.  Arguments that are written one behind the other are read back
(`Argument.read_words_append`).  So the settings of an encode can be read off its arguments, and the
output as long as its path does not begin with a dash (`Config.read_arguments`).
-/

namespace ShaderFilm.Encoder

open ShaderFilm.Files (Path)
open ShaderFilm.Render (sizeText)

/-- What an encoder takes its arguments for. -/
inductive Argument where
  | flag (name : String)
  | option (name value : String)
  /-- An option that no value follows. -/
  | unfinished (name : String)
  | output (path : Path)
  deriving DecidableEq, Repr

namespace Argument

/-- Whether a word stands alone. -/
def isFlag (word : String) : Bool := word == "-y" || word == "-an"

/-- Whether a word is a flag or an option. -/
def isDashed (word : String) : Bool := word.toList.head? == some '-'

/-- What the words of a command line are taken for. -/
def read : List String → List Argument
  | [] => []
  | word :: rest =>
    if isFlag word then .flag word :: read rest
    else if isDashed word then
      match rest with
      | [] => [.unfinished word]
      | value :: rest => .option word value :: read rest
    else .output (.ofString word) :: read rest

/-- An option with its value. -/
def ofPair (pair : String × String) : Argument := option pair.1 pair.2

/-- The words that an argument is written with. -/
def words : Argument → List String
  | flag name => [name]
  | option name value => [name, value]
  | unfinished name => [name]
  | output path => [path.toString]

/-- Whether an argument is taken for what it is, whatever is written behind it. -/
def isPlain : Argument → Bool
  | flag name => isFlag name
  | option name _ => isDashed name && !isFlag name
  | unfinished _ => false
  | output path => !isDashed path.toString

/-- The options among arguments, with their values. -/
def options (arguments : List Argument) : List (String × String) :=
  arguments.filterMap fun
    | option name value => some (name, value)
    | _ => none

/-- The outputs among arguments. -/
def outputs (arguments : List Argument) : List Path :=
  arguments.filterMap fun
    | output path => some path
    | _ => none

theorem ofString_toString (path : Path) : Path.ofString path.toString = path := by
  rw [Path.ofString, Path.toString, String.toList_ofList]

theorem options_append (xs ys : List Argument) : options (xs ++ ys) = options xs ++ options ys :=
  List.filterMap_append

theorem outputs_append (xs ys : List Argument) : outputs (xs ++ ys) = outputs xs ++ outputs ys :=
  List.filterMap_append

theorem options_map_ofPair (pairs : List (String × String)) : options (pairs.map ofPair) = pairs := by
  rw [options, List.filterMap_map]
  exact List.filterMap_some

theorem outputs_map_ofPair (pairs : List (String × String)) : outputs (pairs.map ofPair) = [] := by
  rw [outputs, List.filterMap_map]
  exact List.filterMap_eq_nil_iff.2 fun _ _ => rfl

/-! ### Reading one argument -/

section Read

variable {word : String}

theorem isDashed_of_isFlag (flag : isFlag word = true) : isDashed word = true := by
  rw [isFlag, Bool.or_eq_true, beq_iff_eq, beq_iff_eq] at flag
  obtain rfl | rfl := flag <;> decide

theorem read_flag (flag : isFlag word = true) (rest : List String) :
    read (word :: rest) = .flag word :: read rest := by
  cases rest <;> simp [read, flag]

theorem read_option (dashed : isDashed word = true) (other : isFlag word = false) (value : String)
    (rest : List String) : read (word :: value :: rest) = .option word value :: read rest := by
  simp [read, dashed, other]

theorem read_output (bare : isDashed word = false) (rest : List String) :
    read (word :: rest) = .output (.ofString word) :: read rest := by
  have other : isFlag word = false :=
    Bool.eq_false_iff.2 fun flag => Bool.eq_false_iff.1 bare (isDashed_of_isFlag flag)
  cases rest <;> simp [read, bare, other]

/-- A dashed word at the end is neither an option with a value nor an output. -/
theorem read_dashed (dashed : isDashed word = true) :
    options (read [word]) = [] ∧ outputs (read [word]) = [] := by
  by_cases flag : isFlag word = true
  · rw [read_flag flag]
    exact ⟨rfl, rfl⟩
  · have last : read [word] = [.unfinished word] := by simp [read, dashed, flag]
    rw [last]
    exact ⟨rfl, rfl⟩

end Read

/-- Arguments that are written one behind the other are read back in order. -/
theorem read_words_append {arguments : List Argument} (plain : ∀ a ∈ arguments, a.isPlain = true)
    (rest : List String) :
    read (arguments.flatMap words ++ rest) = arguments ++ read rest := by
  induction arguments with
  | nil => rfl
  | cons a arguments ih =>
    have others := ih fun b mem => plain b (List.mem_cons_of_mem a mem)
    have first := plain a List.mem_cons_self
    rw [List.flatMap_cons, List.append_assoc, List.cons_append, ← others]
    cases a with
    | flag name => exact read_flag first _
    | option name value =>
      obtain ⟨dashed, other⟩ : isDashed name = true ∧ isFlag name = false := by
        simpa [isPlain] using first
      exact read_option dashed other value _
    | unfinished name => cases first
    | output path =>
      have bare : isDashed path.toString = false := by simpa [isPlain] using first
      have step := read_output bare (arguments.flatMap words ++ rest)
      rwa [ofString_toString] at step

end Argument

/-! ### Numbers in arguments -/

theorem not_mem_toString {n : Nat} {c : Char} (other : c.isDigit = false) :
    c ∉ (toString n).toList := by
  intro mem
  rw [Nat.toString_eq_repr, Nat.toList_repr] at mem
  have digit := Nat.isDigit_of_mem_toDigits (by decide) (by decide) mem
  rw [other] at digit
  cases digit

theorem eq_of_toString {m n : UInt32} (same : toString m.toNat = toString n.toNat) : m = n := by
  have digits : Nat.toDigits 10 m.toNat = Nat.toDigits 10 n.toNat := by
    simpa [Nat.toString_eq_repr, Nat.toList_repr] using congrArg String.toList same
  have value := congrArg (Nat.ofDigitChars 10 · 0) digits
  simp only [Nat.ofDigitChars_ten_toDigits] at value
  exact UInt32.toNat_inj.1 value

/-- Width and height can be read off the text of a size. -/
theorem eq_of_sizeText {w h w' h' : UInt32} (same : sizeText w h = sizeText w' h') :
    w = w' ∧ h = h' := by
  have x (n : UInt32) : 'x' ∉ (toString n.toNat).toList := not_mem_toString (by decide)
  have parts : (toString w.toNat).toList ++ 'x' :: (toString h.toNat).toList =
      (toString w'.toNat).toList ++ 'x' :: (toString h'.toNat).toList := by
    simpa [sizeText] using congrArg String.toList same
  obtain ⟨widths, -, heights⟩ := (List.append_cons_inj_of_notMem (x w) (x h)).1 parts
  exact ⟨eq_of_toString (String.toList_inj.1 widths),
    eq_of_toString (String.toList_inj.1 heights)⟩

namespace Config

open Argument (ofPair options outputs read)

/-- What is said to an encoder before the options of its codec. -/
def opening (c : Config) : List Argument :=
  [.flag "-y", .option "-loglevel" c.logLevel, .option "-f" "rawvideo",
    .option "-pixel_format" "rgba", .option "-video_size" (sizeText c.width c.height),
    .option "-framerate" (toString c.fps.toNat), .option "-i" "pipe:0", .flag "-an",
    .option "-c:v" c.profile.codec, .option "-pix_fmt" c.profile.pixelFormat]

theorem isPlain_opening (c : Config) : ∀ a ∈ c.opening, a.isPlain = true :=
  List.all_eq_true.1 rfl

/-- The options of a codec are written in pairs with their values. -/
theorem exists_codecOptions (c : Config) :
    ∃ codec : List (String × String),
      codec.flatMap (fun pair => [pair.1, pair.2]) = c.profile.codecArguments ∧
      ∀ pair ∈ codec, (ofPair pair).isPlain = true := by
  unfold profile Profile.forOutput
  split
  · exact ⟨[("-profile:v", "3")], rfl, by decide⟩
  · exact ⟨[("-crf", "18"), ("-preset", "medium"), ("-movflags", "+faststart")], rfl, by decide⟩

section Read

variable {c : Config} {codec : List (String × String)}

theorem arguments_eq
    (pairs : codec.flatMap (fun pair => [pair.1, pair.2]) = c.profile.codecArguments) :
    c.arguments = (c.opening ++ codec.map ofPair).flatMap Argument.words ++ [c.output.toString] := by
  rw [arguments, ← pairs, List.flatMap_append, List.flatMap_map]
  rfl

/-- The arguments of an encoder are read as they are meant, up to the output. -/
theorem read_arguments_eq
    (pairs : codec.flatMap (fun pair => [pair.1, pair.2]) = c.profile.codecArguments)
    (plain : ∀ pair ∈ codec, (ofPair pair).isPlain = true) :
    read c.arguments = c.opening ++ codec.map ofPair ++ read [c.output.toString] := by
  rw [arguments_eq pairs, Argument.read_words_append]
  intro a mem
  obtain mem | mem := List.mem_append.1 mem
  · exact isPlain_opening c a mem
  · obtain ⟨pair, inside, rfl⟩ := List.mem_map.1 mem
    exact plain pair inside

theorem isDashed_output :
    Argument.isDashed c.output.toString = true ↔ c.output.text.head? = some '-' := by
  rw [Argument.isDashed, Path.toString, String.toList_ofList, beq_iff_eq]

theorem outputs_read_output (c : Config) :
    outputs (read [c.output.toString]) =
      if c.output.text.head? = some '-' then [] else [c.output] := by
  split
  · next dash => exact (Argument.read_dashed (isDashed_output.2 dash)).2
  · next bare =>
    have bare := Bool.eq_false_iff.2 (mt isDashed_output.1 bare)
    rw [Argument.read_output bare, Argument.ofString_toString]
    rfl

theorem options_read_output (c : Config) : options (read [c.output.toString]) = [] := by
  by_cases dash : Argument.isDashed c.output.toString = true
  · exact (Argument.read_dashed dash).1
  · rw [Argument.read_output (Bool.eq_false_iff.2 dash)]
    rfl

end Read

/-- No two encodes that differ in their settings or in their output have the same arguments. -/
theorem arguments_inj {c d : Config} (same : d.arguments = c.arguments) :
    d.width = c.width ∧ d.height = c.height ∧ d.fps = c.fps ∧ d.logLevel = c.logLevel ∧
      d.output = c.output := by
  have word (i : Nat) : d.arguments[i]? = c.arguments[i]? := by rw [same]
  have level : d.logLevel = c.logLevel := Option.some.inj (word 2)
  have size : sizeText d.width d.height = sizeText c.width c.height := Option.some.inj (word 8)
  have rate : toString d.fps.toNat = toString c.fps.toNat := Option.some.inj (word 10)
  have last : d.output.toString = c.output.toString := by
    have ends := congrArg List.getLast? same
    rw [arguments, arguments, List.getLast?_concat, List.getLast?_concat] at ends
    exact Option.some.inj ends
  have output := congrArg Path.ofString last
  rw [Argument.ofString_toString, Argument.ofString_toString] at output
  obtain ⟨width, height⟩ := eq_of_sizeText size
  exact ⟨width, height, eq_of_toString rate, level, output⟩

/-- The settings of an encode can be read off its arguments, and so can the output unless its path
begins with a dash, which is then read as a flag or as an option.  In any case no two encodes that
differ in their settings or in their output have the same arguments. -/
theorem read_arguments (c : Config) :
    (∃ codec : List (String × String),
      codec.flatMap (fun pair => [pair.1, pair.2]) = c.profile.codecArguments ∧
      options (read c.arguments) =
        [("-loglevel", c.logLevel), ("-f", "rawvideo"), ("-pixel_format", "rgba"),
          ("-video_size", toString c.width.toNat ++ "x" ++ toString c.height.toNat),
          ("-framerate", toString c.fps.toNat), ("-i", "pipe:0"), ("-c:v", c.profile.codec),
          ("-pix_fmt", c.profile.pixelFormat)] ++ codec) ∧
    outputs (read c.arguments) = (if c.output.text.head? = some '-' then [] else [c.output]) ∧
    ∀ d : Config, d.arguments = c.arguments →
      d.width = c.width ∧ d.height = c.height ∧ d.fps = c.fps ∧ d.logLevel = c.logLevel ∧
        d.output = c.output := by
  obtain ⟨codec, pairs, plain⟩ := exists_codecOptions c
  have reading := read_arguments_eq pairs plain
  refine ⟨⟨codec, pairs, ?_⟩, ?_, fun d same => arguments_inj same⟩
  · rw [reading, Argument.options_append, Argument.options_append, Argument.options_map_ofPair,
      options_read_output, List.append_nil]
    rfl
  · rw [reading, Argument.outputs_append, Argument.outputs_append, Argument.outputs_map_ofPair,
      outputs_read_output]
    rfl

/-- A path that begins with a dash makes settings that are not refused, and no output. -/
theorem read_arguments_dashed :
    let c : Config := ⟨64, 32, 30, .ofString "-clip.mp4", "ffmpeg", "error"⟩
    c.validate = .ok () ∧ outputs (read c.arguments) = [] ∧
      read c.arguments = c.opening ++
        [.option "-crf" "18", .option "-preset" "medium", .option "-movflags" "+faststart",
          .unfinished "-clip.mp4"] := by
  decide

end Config

end ShaderFilm.Encoder
