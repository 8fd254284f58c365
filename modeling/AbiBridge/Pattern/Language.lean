/-!
# Pattern languages

The fields that a configuration retypes are found by search patterns. The language of these is
not part of the generator, which asks only whether a text is a pattern and what the pattern finds.
-/

namespace AbiBridge

structure PatternLanguage where
  /-- The test that a pattern stands for; `none` if the text is no pattern. -/
  read? : String → Option (String → Bool)

end AbiBridge
