import SchemeCheck.Fixture.Run
set_option autoImplicit false

namespace SchemeCheck

structure Summary where
  tests : Nat
  assertions : Nat
  errors : List Notice
  skipped : List Notice
  failures : List Failure
  deriving DecidableEq

namespace Summary

def empty : Summary := ⟨0, 0, [], [], []⟩

def isSuccess (s : Summary) : Bool := s.errors.isEmpty && s.failures.isEmpty

def record (s : Summary) (run : FixtureRun) : Summary where
  tests := s.tests + 1
  assertions := s.assertions + run.assertionCount
  errors := s.errors ++ if run.status = .error then run.notice.toList else []
  skipped := s.skipped ++ if run.status = .skipped then run.notice.toList else []
  failures := s.failures ++ run.failures

end Summary
end SchemeCheck
