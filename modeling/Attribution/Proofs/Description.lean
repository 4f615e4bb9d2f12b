import Attribution.Proofs.Endpoint.RoundTrip
import Attribution.Proofs.Text.Quoting
import Attribution.Settings

/-!
# What descriptions tell

Settings are described on one line, and an error says which part of a text is to blame. In both a
text that comes from outside is quoted, so it is known where it ends, even if it looks like what
follows. The other values hold no comma and are followed by one. So the description of settings
tells all of them, and the message of an error tells the part that it blames.
-/

namespace Attribution

open Attribution.Text

namespace Text

/-- A text is told from the separator after it, and from what follows that, if it does not hold the
sign that the separator begins with. -/
theorem append_separator_inj {s t x y separator : String} {c : Char}
    (same : s ++ (separator ++ x) = t ++ (separator ++ y))
    (begins : separator.toList.head? = some c) (apart : c ∉ s.toList) (apart' : c ∉ t.toList) :
    s = t ∧ x = y := by
  obtain ⟨more, chars⟩ := List.head?_eq_some_iff.1 begins
  have cut {text : String} (rest : String) (apart : c ∉ text.toList) :
      cutFirst c (text ++ (separator ++ rest)).toList =
        some (text.toList, more ++ rest.toList) := by
    rw [cutFirst_eq_some_iff]
    exact ⟨by simp [chars], apart⟩
  have parts := cut x apart
  rw [same, cut y apart', Option.some.injEq, Prod.mk.injEq, List.append_cancel_left_eq,
    String.toList_inj, String.toList_inj] at parts
  exact ⟨parts.1.symm, parts.2.symm⟩

end Text

/-! ### Settings -/

theorem LogFormat.comma_not_mem_inspect (format : LogFormat) : ',' ∉ format.inspect.toList := by
  cases format <;> decide +kernel

theorem LogFormat.inspect_injective : Function.Injective inspect := by
  intro one other same
  cases one <;> cases other <;> simp_all [inspect]

theorem SocketAddress.comma_not_mem_text (socket : SocketAddress) : ',' ∉ socket.text.toList := by
  rw [text, String.toList_ofList]
  exact socket.denotes_chars.not_mem rfl (by decide)

namespace Settings

theorem comma_not_mem_inspectNumber (number : UInt64) : ',' ∉ (inspectNumber number).toList := by
  rw [inspectNumber, String.toList_ofList]
  exact not_mem_decimal rfl _

theorem inspectNumber_injective : Function.Injective inspectNumber := by
  intro n m same
  exact UInt64.toNat_inj.1 (decimal_injective (String.ofList_injective same))

theorem inspect_eq (settings : Settings) : settings.inspect =
    "Args \x7b log_level: " ++ (quote settings.logFilter ++
      (", log_format: " ++ (settings.logFormat.inspect ++
        (", admin_addr: " ++ (settings.adminAddress.text ++
          (", callback_queue_capacity: " ++ (inspectNumber settings.queueCapacity ++
            (", callback_workers: " ++ (inspectNumber settings.workers ++
              (", callback_send_timeout_ms: " ++
                (inspectNumber settings.sendTimeout ++ " \x7d"))))))))))) := by
  -- not by the equation of `inspect`: to state it takes evaluating the quoted text
  delta inspect
  simp only [String.append_assoc]

/-- No two settings have the same description. -/
theorem inspect_injective : Function.Injective inspect := by
  intro one other same
  rw [inspect_eq, inspect_eq] at same
  -- the quoted text comes first, since its end can only be found from its beginning
  obtain ⟨logFilter, same⟩ := quote_append_inj.1 ((String.append_right_inj _).1 same)
  obtain ⟨logFormat, same⟩ := append_separator_inj ((String.append_right_inj _).1 same) rfl
    (LogFormat.comma_not_mem_inspect _) (LogFormat.comma_not_mem_inspect _)
  obtain ⟨adminAddress, same⟩ := append_separator_inj same rfl
    (SocketAddress.comma_not_mem_text _) (SocketAddress.comma_not_mem_text _)
  obtain ⟨queueCapacity, same⟩ := append_separator_inj same rfl
    (comma_not_mem_inspectNumber _) (comma_not_mem_inspectNumber _)
  obtain ⟨workers, same⟩ := append_separator_inj same rfl
    (comma_not_mem_inspectNumber _) (comma_not_mem_inspectNumber _)
  have sendTimeout := (String.append_left_inj _).1 same
  cases one
  cases other
  rw [mk.injEq]
  exact ⟨logFilter, LogFormat.inspect_injective logFormat,
    SocketAddress.text_eq_iff.1 adminAddress, inspectNumber_injective queueCapacity,
    inspectNumber_injective workers, inspectNumber_injective sendTimeout⟩

end Settings

/-! ### Errors -/

theorem Protocol.Unknown.message_injective : Function.Injective Unknown.message := by
  rintro ⟨name⟩ ⟨name'⟩ same
  rw [mk.injEq]
  exact quote_injective ((String.append_right_inj _).1 ((String.append_left_inj _).1 same))

namespace Endpoint.ParseError

/-- What is said of a socket address is never said of a protocol. -/
theorem message_ne (part : String) (unknown : Protocol.Unknown) :
    (socketAddress part).message ≠ (protocol unknown).message := by
  have invalid : ("invalid socket address " ++ quote part).toList.head? = some 'i' := by
    simp
  have differs : ("unknown protocol " ++ quote unknown.name ++
      "; expected tcp or udp").toList.head? = some 'u' := by
    simp
  intro same
  cases invalid.symm.trans ((congrArg (·.toList.head?) same).trans differs)

/-- No two errors have the same message. -/
theorem message_injective : Function.Injective message := by
  intro one other same
  cases one with
  | socketAddress part =>
    cases other with
    | socketAddress part' =>
      rw [socketAddress.injEq]
      exact quote_injective ((String.append_right_inj _).1 same)
    | protocol unknown => exact absurd same (message_ne part unknown)
  | protocol unknown =>
    cases other with
    | socketAddress part => exact absurd same.symm (message_ne part unknown)
    | protocol unknown' =>
      rw [protocol.injEq]
      exact Protocol.Unknown.message_injective same

end Endpoint.ParseError

/-- Whatever follows a quoted text, the text is known, and so is what follows it. No two settings
have the same description. The message of an error tells which text it blames. -/
theorem descriptions_tell_all :
    (∀ s t x y : String, quote s ++ x = quote t ++ y ↔ s = t ∧ x = y) ∧
    Function.Injective quote ∧
    Function.Injective Settings.inspect ∧
    Function.Injective Protocol.Unknown.message ∧
    Function.Injective Endpoint.ParseError.message :=
  ⟨fun _ _ _ _ => quote_append_inj, quote_injective, Settings.inspect_injective,
    Protocol.Unknown.message_injective, Endpoint.ParseError.message_injective⟩

end Attribution
