/-!
# Which instances are meant

Powers, the order of lists and the hash of a character are those of the core library, whatever else
is in sight.
-/

attribute [instance (20000)] instPowNat List.instLE List.decidableLE instHashableChar

attribute [default_instance 20000] instPowNat
