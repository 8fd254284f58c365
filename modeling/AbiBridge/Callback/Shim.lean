import AbiBridge.Module.Basic
import AbiBridge.Text.Search

/-!
# The native shim

The source of a small native library that tells sizes and alignments of payloads
and of their fields by the number of the callback, as the native compiler sees
them. A callback that the shim may not mention is written as comments.
-/

namespace AbiBridge

structure ShimTarget where
  includes : List String
  marker : String
  rootAccessor : Option String
  rootInterface : Option String

namespace Shim

/-- A line inside a `switch`, commented out if the callback is denied. -/
def caseLine (callback : Callback) (code : String) : String :=
  "    " ++ (if callback.inShim then "" else "// ") ++ code

def label (callback : Callback) : String :=
  "case " ++ toString callback.id ++ ":"

def lookup (signature : String) (cases : List String) : List String :=
  [signature ++ " \x7b", "    switch (id) \x7b"] ++ cases
    ++ ["    default: return 0;", "    \x7d", "\x7d"]

def payloadCase (operator : String) (callback : Callback) : List String :=
  [caseLine callback
    (label callback ++ " return (int32_t)" ++ operator ++ "(" ++ callback.payload ++ ");")]

def fieldLine (callback : Callback) (index : Nat) (answer : String) : String :=
  caseLine callback
    ("    if (field == " ++ toString index ++ ") return (int32_t)" ++ answer ++ ";")

def fieldSizeCase (callback : Callback) : List String :=
  [caseLine callback (label callback)]
    ++ callback.fields.zipIdx.map (fun (field, index) =>
      fieldLine callback index ("sizeof(" ++ callback.payload ++ "::" ++ field ++ ")"))
    ++ [caseLine callback "    return 0;"]

def fieldAlignCase (callback : Callback) : List String :=
  [caseLine callback (label callback ++ " \x7b"),
   caseLine callback ("    const " ++ callback.payload ++ " *p = nullptr;"),
   caseLine callback "    (void)p;"]
    ++ callback.fields.zipIdx.map (fun (field, index) =>
      fieldLine callback index ("alignof(p->" ++ field ++ ")"))
    ++ [caseLine callback "    return 0;", caseLine callback "\x7d"]

/-- The function that returns the root object, if one is configured. -/
def rootLines (options : ShimTarget) : List String :=
  match options.rootAccessor with
  | some accessor =>
    if accessor.isEmpty then []
    else
      [options.rootInterface.getD "void" ++ " *" ++ options.marker ++ "_root_client() \x7b",
       "    return " ++ accessor ++ "();", "\x7d", ""]
  | none => []

def lines (options : ShimTarget) (callbacks : List Callback) : List String :=
  let function (name : String) := "int32_t " ++ options.marker ++ name
  ["// Generated by vbind-gen. Do not edit.", ""]
    ++ options.includes.map (fun file => "#include \"" ++ file ++ "\"")
    ++ ["#include <cstddef>", "#include <cstdint>", "", "extern \"C\" \x7b", ""]
    ++ rootLines options
    ++ lookup (function "_callback_size(int32_t id)")
      (callbacks.flatMap (payloadCase "sizeof"))
    ++ [""]
    ++ lookup (function "_callback_align(int32_t id)")
      (callbacks.flatMap (payloadCase "alignof"))
    ++ [""]
    ++ lookup (function "_callback_field_size(int32_t id, int32_t field)")
      (callbacks.flatMap fieldSizeCase)
    ++ [""]
    ++ lookup (function "_callback_field_align(int32_t id, int32_t field)")
      (callbacks.flatMap fieldAlignCase)
    ++ ["\x7d"]

def render (options : ShimTarget) (callbacks : List Callback) : String :=
  Text.unlines (lines options callbacks)

end Shim

end AbiBridge
