import Mathlib
import LibSklt.PacketGenerator.GeneratedFile

/-!
# The generated header

The header of a packet's class declares the functions that the file of the
class defines.  Its text is read back like that of the file.
-/

namespace LibSklt.PacketGenerator

open LibSklt.Foundation.Separated
open LibSklt.Foundation.Tokens

/-- The parts of the header that depend on the packet. -/
structure HeaderFile where
  guard : String
  className : String
  serialize : List Arg
  deserialize : List Arg
deriving DecidableEq

/-- The guard and the name of the class. -/
def readHead (found : List Token) :
    Option (String × String × List Token) := do
  let found ← expect "#pragma once #ifndef" found
  let (guard, found) ← readWord found
  let found ← expect "#define" found
  let (again, found) ← readWord found
  let found ← expect "#include <boost/tuple/tuple.hpp> class" found
  let (className, found) ← readWord found
  if again = guard then some (guard, className, found) else none

/-- The members that are the same for all packets. -/
def readMembers (found : List Token) : Option (List Token) := do
  let found ← expect "\x7b public :" found
  let found ← expect
    "typedef boost::tuple<const char*, size_t> result_object;" found
  let found ← expect
    "static result_object ProtocolProcess(const char * buffer," found
  let found ← expect "const size_t size); private :" found
  expect "static result_object ErrorResult(int16_t& result_value);" found

/-- `Serialize` and `Deserialize`. -/
def readCodecs (found : List Token) :
    Option (List Arg × List Arg × List Token) := do
  let found ← expect
    "static size_t Serialize(char* buffer, size_t buffer_size," found
  let (results, found) ← upTo (.mark ')') found
  let results ← readList readParameter results
  let found ← expect
    "; static size_t Deserialize(char* buffer, size_t buffer_size," found
  let (requests, found) ← upTo (.mark ')') found
  let requests ← readList readParameter requests
  some (results, requests, found)

def readHeaderString (text : String) : Option HeaderFile := do
  let (guard, className, found) ← readHead (tokens text)
  let found ← readMembers found
  let (results, requests, found) ← readCodecs found
  let found ← expect "; \x7d; #endif" found
  if found = [] then
    some ⟨guard, className, results, requests⟩
  else
    none

/-! ## Guards -/

/-- The name of the include guard. -/
def guardName (className : String) : String :=
  "__" ++ Text.upper className ++ "_H_"

/-- The header that declares what a file defines. -/
def CppFile.declared (file : CppFile) : HeaderFile where
  guard := guardName file.handler.className
  className := file.handler.className
  serialize := file.serialize.parameters
  deserialize := file.deserialize.parameters

theorem isUpper_toUpper {char : Char}
    (lower : 'a'.val ≤ char.val ∧ char.val ≤ 'z'.val) :
    char.toUpper.isUpper = true := by
  have low : 97 ≤ char.val.toNat := UInt32.le_iff_toNat_le.mp lower.1
  have high : char.val.toNat ≤ 122 := UInt32.le_iff_toNat_le.mp lower.2
  have value : char.toUpper.val.toNat = char.val.toNat - 32 := by
    have difference : 'A'.val - 'a'.val = 4294967264 := by decide
    rw [Char.toUpper, dif_pos lower]
    simp only [difference, UInt32.toNat_add]
    show (char.val.toNat + 4294967264) % 2 ^ 32 = _
    omega
  simp only [Char.isUpper, ge_iff_le, decide_eq_true_eq,
    UInt32.le_iff_toNat_le, value]
  constructor
  · show 65 ≤ _
    omega
  · show _ ≤ 90
    omega

theorem isWordChar_toUpper {char : Char} (wordChar : isWordChar char = true) :
    isWordChar char.toUpper = true := by
  by_cases lower : 'a'.val ≤ char.val ∧ char.val ≤ 'z'.val
  · simp [isWordChar, Char.isAlphanum, Char.isAlpha, isUpper_toUpper lower]
  · rwa [Char.toUpper, dif_neg lower]

theorem identifier_guardName {className : String}
    (named : Identifier className) : Identifier (guardName className) := by
  have front : Identifier "__" := identifier_chars _ rfl (by simp) (by decide)
  have back : ∀ char ∈ "_H_".toList, isWordChar char = true :=
    wordChars_chars _ rfl rfl
  refine (front.append ?_).append back
  intro char member
  rw [Text.upper, String.toList_ofList] at member
  obtain ⟨letter, inName, rfl⟩ := List.mem_map.mp member
  exact isWordChar_toUpper (named.wordChars letter inName)

/-! ## The text -/

section

variable {className : String} {sendArgs recvArgs : List Arg}

/-! The tokens of the parts. -/

def headTokens (className : String) : List (List Token) :=
  [tokens "#pragma once #ifndef", [.word (guardName className)],
    tokens "#define", [.word (guardName className)],
    tokens "#include <boost/tuple/tuple.hpp> class", [.word className]]

def memberTokens : List (List Token) :=
  [tokens "\x7b public :",
    tokens "typedef boost::tuple<const char*, size_t> result_object;",
    tokens "static result_object ProtocolProcess(const char * buffer,",
    tokens "const size_t size); private :",
    tokens "static result_object ErrorResult(int16_t& result_value);"]

def codecTokens (sendArgs recvArgs : List Arg) : List (List Token) :=
  [tokens "static size_t Serialize(char* buffer, size_t buffer_size,",
    parameterTokens recvArgs, [.mark ')'],
    tokens "; static size_t Deserialize(char* buffer, size_t buffer_size,",
    parameterTokens sendArgs, [.mark ')']]

def headerTokens (className : String) (sendArgs recvArgs : List Arg) :
    List (List Token) :=
  headTokens className ++
    (memberTokens ++
      (codecTokens sendArgs recvArgs ++ [tokens "; \x7d; #endif"]))

theorem exists_makeHeaderString (named : Identifier className)
    (sendFields : ∀ arg ∈ sendArgs, Identifier arg.name)
    (recvFields : ∀ arg ∈ recvArgs, Identifier arg.name) :
    ∃ text,
      Text.makeHeaderString className (sendArgs.map Arg.text)
          (recvArgs.map Arg.text) = some text ∧
        tokens text =
          (headerTokens className sendArgs recvArgs).flatten := by
  have sendUncut : ∀ arg ∈ sendArgs, Text.Uncut arg :=
    fun arg member => uncut_of_identifier (sendFields arg member)
  have recvUncut : ∀ arg ∈ recvArgs, Text.Uncut arg :=
    fun arg member => uncut_of_identifier (recvFields arg member)
  have guarded := spells_name (identifier_guardName named)
  have once :
      Scans .code "\n#pragma once\n\n#ifndef "
        (tokens "#pragma once #ifndef") .code :=
    scans_fixed _ _ rfl rfl rfl
  have define : Scans .code "\n#define " (tokens "#define") .code :=
    scans_fixed _ _ rfl rfl rfl
  have afterGuard : Boundary "\n#define " := boundary_chars _ _ rfl rfl
  have tuple :
      Scans .code "\n\n#include <boost/tuple/tuple.hpp>\n\nclass "
        (tokens "#include <boost/tuple/tuple.hpp> class") .code :=
    scans_fixed _ _ rfl rfl rfl
  have afterSecond :
      Boundary "\n\n#include <boost/tuple/tuple.hpp>\n\nclass " :=
    boundary_chars _ _ rfl rfl
  have opening :
      Scans .code " \x7b\npublic :\n" (tokens "\x7b public :") .code :=
    scans_fixed _ _ rfl rfl rfl
  have afterName : Boundary " \x7b\npublic :\n" :=
    boundary_chars _ _ rfl rfl
  have result :
      Scans .code
        "    typedef boost::tuple<const char*, size_t> result_object;\n"
        (tokens "typedef boost::tuple<const char*, size_t> result_object;")
        .code := scans_fixed _ _ rfl rfl rfl
  have process :
      Scans .code
        "    static result_object ProtocolProcess(const char * buffer, "
        (tokens "static result_object ProtocolProcess(const char * buffer,")
        .code := scans_fixed _ _ rfl rfl rfl
  have hidden :
      Scans .code "const size_t size);\nprivate :\n"
        (tokens "const size_t size); private :") .code :=
    scans_fixed _ _ rfl rfl rfl
  have refusal :
      Scans .code
        "    static result_object ErrorResult(int16_t& result_value);\n"
        (tokens "static result_object ErrorResult(int16_t& result_value);")
        .code := scans_fixed _ _ rfl rfl rfl
  have serialize :
      Scans .code
        "    static size_t Serialize(char* buffer, size_t buffer_size, "
        (tokens "static size_t Serialize(char* buffer, size_t buffer_size,")
        .code := scans_fixed _ _ rfl rfl rfl
  have deserialize :
      Scans .code
        ";\n    static size_t Deserialize(char* buffer, size_t buffer_size, "
        (tokens
          "; static size_t Deserialize(char* buffer, size_t buffer_size,")
        .code := scans_fixed _ _ rfl rfl rfl
  have last :
      Scans .code ";\n\x7d;\n\n#endif\n" (tokens "; \x7d; #endif") .code :=
    scans_fixed _ _ rfl rfl rfl
  refine ⟨_, ?_, tokens_of_scans
    (once.cons
      (guarded.cons (boundary_join afterGuard _)
        (define.cons
          (guarded.cons (boundary_join afterSecond _)
            (tuple.cons
              ((spells_name named).cons (boundary_join afterName _)
                (opening.cons
                  (result.cons
                    (process.cons
                      (hidden.cons
                        (refusal.cons
                          (serialize.cons
                            ((spells_parameters recvFields).cons
                              (boundary_join boundary_closing _)
                              (scans_closing.cons
                                (deserialize.cons
                                  ((spells_parameters sendFields).cons
                                    (boundary_join boundary_closing _)
                                    (scans_closing.cons
                                      (last.cons
                                        (scans_join_nil _)))))))))))))))))))⟩
  rw [Text.makeHeaderString, Text.makeArgRefString_text recvUncut,
    Text.makeArgRefString_text sendUncut]
  rfl

theorem readHead_headTokens (className : String) (behind : List Token) :
    readHead ((headTokens className).flatten ++ behind) =
      some (guardName className, className, behind) := by
  rw [readHead, headTokens]
  simp only [Option.bind_eq_bind]
  rw [bind_expect, bind_readWord, bind_expect, bind_readWord, bind_expect,
    bind_readWord, if_pos rfl]
  rfl

theorem readMembers_memberTokens (behind : List Token) :
    readMembers (memberTokens.flatten ++ behind) = some behind := by
  rw [readMembers, memberTokens]
  simp only [Option.bind_eq_bind]
  rw [bind_expect, bind_expect, bind_expect, bind_expect,
    List.flatten_singleton, expect_append]

theorem readCodecs_codecTokens (sendArgs recvArgs : List Arg)
    (behind : List Token) :
    readCodecs ((codecTokens sendArgs recvArgs).flatten ++ behind) =
      if sendArgs = [] ∨ recvArgs = [] then none
      else some (recvArgs, sendArgs, behind) := by
  rw [readCodecs, codecTokens]
  simp only [Option.bind_eq_bind]
  rw [bind_expect, bind_upTo (mark_not_mem_parameterTokens recvArgs),
    readList_parameterTokens]
  by_cases noResult : recvArgs = []
  · rw [if_pos noResult, if_pos (Or.inr noResult)]
    rfl
  · rw [if_neg noResult, Option.bind_some, bind_expect,
      bind_upTo (mark_not_mem_parameterTokens sendArgs),
      readList_parameterTokens]
    by_cases noRequest : sendArgs = []
    · rw [if_pos noRequest, if_pos (Or.inl noRequest)]
      rfl
    · rw [if_neg noRequest, if_neg (not_or.mpr ⟨noRequest, noResult⟩)]
      rfl

/-- The header is read back, unless one of the lists is empty. -/
theorem exists_readHeaderString (named : Identifier className)
    (sendFields : ∀ arg ∈ sendArgs, Identifier arg.name)
    (recvFields : ∀ arg ∈ recvArgs, Identifier arg.name) :
    ∃ text,
      Text.makeHeaderString className (sendArgs.map Arg.text)
          (recvArgs.map Arg.text) = some text ∧
        readHeaderString text =
          if sendArgs = [] ∨ recvArgs = [] then none
          else some ⟨guardName className, className, recvArgs, sendArgs⟩ := by
  obtain ⟨text, made, spelled⟩ :=
    exists_makeHeaderString named sendFields recvFields
  refine ⟨text, made, ?_⟩
  rw [readHeaderString, spelled, headerTokens, List.flatten_append,
    List.flatten_append, List.flatten_append, readHead_headTokens]
  simp only [Option.bind_eq_bind]
  rw [Option.bind_some, readMembers_memberTokens, Option.bind_some,
    readCodecs_codecTokens]
  by_cases empty : sendArgs = [] ∨ recvArgs = []
  · rw [if_pos empty, if_pos empty]
    rfl
  · rw [if_neg empty, if_neg empty, Option.bind_some,
      ← List.append_nil (List.flatten _), bind_expect]
    rfl

/-- What the header declares of what the file defines. -/
theorem map_declared (className : String) (sendArgs recvArgs : List Arg) :
    (if sendArgs = [] ∨ recvArgs = [] then none
      else some (cppFileOf className sendArgs recvArgs)).map
        CppFile.declared =
      if sendArgs = [] ∨ recvArgs = [] then none
      else some ⟨guardName className, className, recvArgs, sendArgs⟩ := by
  split_ifs with empty
  · rfl
  · rfl

/--
For every name of a class and all lists of fields with identifiers as names,
the generator makes a header and a file.  The file reads as the functions of
the model, and the header declares the two codecs with the parameters that
the file defines them with.  Where one of the lists is empty, neither can be
read as C++.
-/
theorem generated_texts_read_back (named : Identifier className)
    (sendFields : ∀ arg ∈ sendArgs, Identifier arg.name)
    (recvFields : ∀ arg ∈ recvArgs, Identifier arg.name) :
    ∃ header file,
      Text.makeHeaderString className (sendArgs.map Arg.text)
          (recvArgs.map Arg.text) = some header ∧
        Text.makeCppString className (sendArgs.map Arg.text)
            (recvArgs.map Arg.text) = some file ∧
          readHeaderString header =
              (readCppString file).map CppFile.declared ∧
            readCppString file =
              if sendArgs = [] ∨ recvArgs = [] then none
              else some (cppFileOf className sendArgs recvArgs) := by
  obtain ⟨header, madeHeader, readsHeader⟩ :=
    exists_readHeaderString named sendFields recvFields
  obtain ⟨file, madeFile, readsFile⟩ :=
    exists_readCppString named sendFields recvFields
  refine ⟨header, file, madeHeader, madeFile, ?_, readsFile⟩
  rw [readsHeader, readsFile, map_declared]

end

/-- `protocol/LeagueTimeSet.h` and `protocol/LeagueTimeSet.cpp`. -/
theorem generated_texts_read_back_leagueTimeSet :
    ∃ header file,
      Text.makeHeaderString "LeagueTimeSet" ["uint64_t leaguetime"]
          ["uint16_t result_value"] = some header ∧
        Text.makeCppString "LeagueTimeSet" ["uint64_t leaguetime"]
            ["uint16_t result_value"] = some file ∧
          readHeaderString header =
              (readCppString file).map CppFile.declared ∧
            readCppString file =
              some (cppFileOf "LeagueTimeSet"
                [⟨.integer .uint64, "leaguetime"⟩]
                [⟨.integer .uint16, "result_value"⟩]) := by
  have named : Identifier "LeagueTimeSet" :=
    identifier_chars _ rfl (by simp) (by decide)
  have sendName : Identifier "leaguetime" :=
    identifier_chars _ rfl (by simp) (by decide)
  have recvName : Identifier "result_value" :=
    identifier_chars _ rfl (by simp) (by decide)
  obtain ⟨header, file, madeHeader, madeFile, declared, reads⟩ :=
    @generated_texts_read_back "LeagueTimeSet"
      [⟨.integer .uint64, "leaguetime"⟩]
      [⟨.integer .uint16, "result_value"⟩]
      named (by simpa using sendName) (by simpa using recvName)
  refine ⟨header, file, madeHeader, madeFile, declared, ?_⟩
  simpa using reads

end LibSklt.PacketGenerator
