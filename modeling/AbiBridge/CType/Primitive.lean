import AbiBridge.Word

/-!
# Primitive types

The scalar types of a binary interface with their fixed widths, and the
spellings that each has in C headers and in the generated module.
-/

namespace AbiBridge

inductive Primitive where
  | bool | u8 | i8 | u16 | i16 | u32 | i32 | u64 | i64 | f32 | f64 | isize | usize
  deriving DecidableEq, Repr

namespace Primitive

def all : List Primitive :=
  [bool, u8, i8, u16, i16, u32, i32, u64, i64, f32, f64, isize, usize]

def rustName : Primitive → String
  | bool => "bool" | u8 => "u8" | i8 => "i8" | u16 => "u16" | i16 => "i16"
  | u32 => "u32" | i32 => "i32" | u64 => "u64" | i64 => "i64" | f32 => "f32"
  | f64 => "f64" | isize => "isize" | usize => "usize"

def cName : Primitive → String
  | bool => "bool" | u8 => "uint8_t" | i8 => "int8_t" | u16 => "uint16_t"
  | i16 => "int16_t" | u32 => "uint32_t" | i32 => "int32_t" | u64 => "uint64_t"
  | i64 => "int64_t" | f32 => "float" | f64 => "double" | isize => "intptr_t"
  | usize => "size_t"

/-- The C spellings and the primitives that they mean, `char` being unsigned. -/
def spellings : List (String × Primitive) :=
  [("bool", bool),
   ("char", u8), ("unsigned char", u8), ("uint8_t", u8),
   ("signed char", i8), ("int8_t", i8),
   ("short", i16), ("signed short", i16), ("int16_t", i16),
   ("unsigned short", u16), ("uint16_t", u16),
   ("int", i32), ("signed", i32), ("signed int", i32), ("int32_t", i32),
   ("unsigned", u32), ("unsigned int", u32), ("uint32_t", u32),
   ("long long", i64), ("signed long long", i64), ("int64_t", i64),
   ("unsigned long long", u64), ("uint64_t", u64),
   ("float", f32), ("double", f64),
   ("intptr_t", isize), ("ssize_t", isize),
   ("size_t", usize), ("uintptr_t", usize)]

/-- The primitive with a given C spelling, words separated by one space. -/
def ofSpelling? (spelling : String) : Option Primitive :=
  spellings.lookup spelling

def ofRustName? (name : String) : Option Primitive :=
  all.find? (·.rustName == name)

/-- An integer type; `bool` is none. -/
def isInteger : Primitive → Bool
  | bool | f32 | f64 => false
  | _ => true

def isUnsigned : Primitive → Bool
  | u8 | u16 | u32 | u64 | usize => true
  | _ => false

def isFloat : Primitive → Bool
  | f32 | f64 => true
  | _ => false

/-- The least and the greatest integer constant of the type. A `bool` holds 0 and
1, pointer-sized types have 64 bits, and a floating-point type takes the
integers of 64 signed bits. -/
def bounds : Primitive → Int × Int
  | bool => (0, 1)
  | u8 => Word.unsignedBounds 8
  | i8 => Word.signedBounds 8
  | u16 => Word.unsignedBounds 16
  | i16 => Word.signedBounds 16
  | u32 => Word.unsignedBounds 32
  | i32 => Word.signedBounds 32
  | u64 | usize => Word.unsignedBounds 64
  | i64 | isize | f32 | f64 => Word.signedBounds 64

end Primitive

end AbiBridge
