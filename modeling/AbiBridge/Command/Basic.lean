/-!
# Commands

What can be asked of the program on its command line.
-/

namespace AbiBridge

inductive HelpTopic where
  | program
  | generate
  | genConfig
  | check
  | resolve
  deriving DecidableEq, Repr

/-- A command. Paths are those of configuration files. -/
inductive Command where
  /-- Write the outputs of a project. A strict run fails if something was left out. -/
  | generate (config : String) (strict : Bool)
  /-- Write a configuration file that shows what can be set. -/
  | genConfig (output : String)
  /-- Report on a project without writing anything. -/
  | check (config : String) (strict : Bool)
  /-- Show how a spelling of a type is read, with the overrides of a project if one is
  given. -/
  | resolve (type : String) (signature : Bool) (config : Option String)
  | version
  | help (topic : HelpTopic)
  deriving DecidableEq, Repr

end AbiBridge
