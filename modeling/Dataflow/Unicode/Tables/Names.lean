import Dataflow.Unicode.Table
/-!
# Character names

The names of the code points (Unicode 14.0) other than those whose names are made from their
code points (the unified and compatibility ideographs, the Hangul syllables, the Tangut
components, the Khitan small script characters, the Nushu characters, the variation selectors
and the Braille patterns but the blank one), and the name aliases but the numbers `VS1` to
`VS256` of the variation selectors.

A name is a list of words. The words are numbered: the 45 most frequent first
(`commonNameWords`), then the next by frequency in alphabetical order (`middleNameWordText`),
then the rest in the order of their first use (`rareNameWordText`); every word of the last two
lists is written as the number of leading characters it shares with the word before it (a
lowercase letter, `a` for none) followed by the rest of it.

The names are listed in order of code point (`nameCodeText`), in 88 symbols (`nameSymbols`)
whose values are their places. An entry starts with a symbol below 13: a value `s` below 11
begins a name whose first `s` words are those of the name before it, and the symbols that follow
give its other words; the value 11 alone gives the name before it with the number that ends its
last word one higher, as many digits wide; the value 12 skips the code points without a name, as
many as the following symbols give. The symbols that follow an entry's start have values from 13 on, each a
digit `d - 13` in base 75: one digit below 45 names a common word, a first digit below 72 and one
more a middle word, a first digit 72 or 73 and two more a rare word, and the digit 74 alone the
next rare word not used before. The aliases are entries
`cp:ALIAS` separated by `;`.

The texts of the word lists and of the name codes are kept with their repeated stretches written
as copies (`expandCopies`), and these texts and the aliases are range coded (`rangeDecode`).
-/

namespace Dataflow.Unicode

/-- The most frequent words of the names. -/
def commonNameWords : List String :=
  ["WITH", "LETTER", "SMALL", "FORM", "CAPITAL", "SIGN", "AND", "ARROW",
   "RIGHT", "ABOVE", "LEFT", "U", "A", "O", "TWO", "E",
   "BELOW", "FINAL", "ONE", "DOUBLE", "I", "DOT", "MARK", "THREE",
   "TO", "BLACK", "ISOLATED", "WHITE", "OF", "FOUR", "HOOK", "STROKE",
   "SYMBOL", "FIVE", "INITIAL", "RIGHTWARDS", "HEAVY", "MIDDLE", "R", "S",
   "VERTICAL", "UP", "SIX", "EIGHT", "TIMES"]

/-- The middle words of the names, each written against the one before it. -/
def middleNameWordText : String :=
  expandCopies (rangeDecode 8 7251 (String.join [
    "aIj?<)I;;gFXh9NdVio=$t;[y1ZG&N^N:R2.e>?_|Z5kJJF.7<ZgMJl?I>imp~BhcUAnRQ8:oiNT%B@sx55-Ipx5u3&I7>CJLil.WD&X-s-(u<3sZ1Ws3F74eIg7SrI]q]U+VG|T=2?wPqeHLDL4mm~|2OY9F&4qZl+sUPeQqln2Lb4e*>V5unv*9||AK-1FA2Z#V*x6@^tb|F|f)5xdtDwe(DW;Y>C&!UJ1^d]Fsr]=!0cEoGXRRotlABsKok*PVMi*,bLAgg@tWe]M%T_)~uW#6*D%6)*hXfYNtm/F)rlO+C/y[!r$O>Sy4tw-CTU4qmLSm)/(#YX*^]WxMO)fc-ja;Z-zhU9OqA+Sc^Y7f<NyjPsYwaZ^(YQ)KR4*,R.H*&j;qAQQSnEP|qY#P(|(2)[SpYWGd@);zFp>ppk8Gt<IYUAnKCWMbiP#z2DXE-f5T[4RYZ$<!&MiJ>j!(0<EM.kjRuL]/(O|Nov<>1TRRo%L2c-[-8qX>:5oIt^>geyw#]rq~xY~4app0X)4sN>!)WR*q/r>yB=2M@4qL6X8#(8a0IyfO@0h)#^^5Gm/NK8(@5)a%%7dO!K7CC1?2rJ,+<Bki?<,&DV@^?$!KqE-IG,0O@s!lZ^u,WE;6q$t&6&~w=L;cE&zoY*Y-M7pH-mPa3P5PPP(BjeJ_hM1cu>Tg8d0%)L=M-bDkTX6^2yqM0,)B?D9gQ4gnH3@K)S^7@~[[0Q8Y%f)PKJLJ,486X.8s^Gki(Om,T;3V&4gzV/v0(B3iTlHLnP(dC&HNcM2s77j-m%d11f>;,YH$B3PRCA3aK(lmzQ,wBb&PYfM$o>vs=xL-yvMH:>@frM&Fq!,#0v<LAEd7dIJoqD0Vd[sG#6;5bq_uO3<kXJXR6bFBErMFGQ5M&4awi&uIjOXY)+y)s_>AyQ.-9fUZ$-h,do*%0u*:dizl7^)cVFF]ZwL&yP*4W|Gg|t!dp3MI[,@:>fL4~P*01m0LX9|]1$Bg@,3tOOV",
    "gMB:v%#oY>]F:eMcGeEC6bo^vihir@O>Z5__F3jwFsE/-+9x623pl[_Tnak-OdItFh=21ofof~0$FIb;_wM$tYcCH!?/=B(Ymt.qef7&<QhN-FNyYhbv?_C6y+icA=ndwx7kw~SdFZt-nzgdIr=]Qy]&c,/H6Zeh@E&Hw9NmL.DE?[~Nifm?b3vTrw;RMA*/fi>770)gl!=6Q9k<m<;=E#3U]CKxK^yl@n#|PhNziX?yxLdGSR:T9?f*>f3S(+v$be>*S1d5i]k93QjE19:E$cIsOF33o[|,B!tj5Zi[LT=]jUG=s,+0=Zg-_dXfb4]o.BBnH1&V;YM:#z|72#g4<~f,!DVv0>.,GA5<fv.&z(GEsC@y*k]qJs,OZ0~gf4LB;>L@@LF/:Gl];heyIn#?<]Hm-kYfsQW5hX+j$#p|h;jx^8!ln.vMue&#yIy7yWk$^m;6y-$p*lJJe:%?y)]b?l8R1mR%am&wZ]PXj@a)J[)^e]7uJiqvEA],uq7>zwy7y(RnkcR.3%=AS~SyDRrvR@.qn#%S.0-0Xl56&g:[?yx90YjzVI0oA[~$z[2X~W$cfP5(z1FLU[Z8kbpk38!pZ3(9V;Gem)Wn)Ow_$,#t>5R(9SvGOa5@C,#9lkGwIiAiOzd5qE1[P>t;1)a<RUhycG|MU@Zw]DoQ|;)_^AktJ(xmnFEmVV*SD-K#AGvq=ozvqZ2Tdqf&Hx?yh1i/Axd03y_I0eT_KkExwhU.Fa6HR-5pBe1$)dhLur%73h>i>.Sduw6JwI$oJ(l1=Va,fX:>3XbjMT1ojfvUMG=~<l+Rk@q=fNqPeBIR1iHoespmXKTyx:_:u!s=#e+k,=]hdIsv?2!,<$%B;!e@v)2hzb!C(s)R@@(5Az1nfZ&N(Efxw$7Pnn4:bGi;7|]cCoG@~J$7)Q@VxxI$AI/m;iwj1S5WT5sN4R^@l6--3J=FN*#mt?3WbmSF@!DZM0AUs^jViq=>])d^6fT6qO>O5kvSo7uO",
    "v?AqQ~a>~dxB6-G^uwPw;D0g:Hnd,Q]FK8^|m6V^QhEOo_eNK.58gqTOgKTxD=rZvMz[kt4PHl4^@ZrNZ2/swWd3Y=[)[_1muZWl4)LQGDI(j/~g,2W1Z.7R4&H[nMi>$flqT&h5AENHW^[$-7z$z)?^#9cNf|XL10PYhrk#lKoPnJIlQY;6H4h$*#<gy$zWvFvl-jN4c&vF0+p0:vZ0?q?e5*f>GUoUF3WB9[%nfNipGs-m$?fZ8=UGe>v0(^n(V0d.no9YZEcX1w/hrO<87n3vT($vj[)vD,k#3spY8A*dS2VO$K~?I#Kb95V|SpQ~H,J<3Be9[H2xvG;BJhr|#/&SKB_0bg~rnmLEf6r~6Z@AhJ+O1KWZd&&Wsc9d>/Rf4:M@l-X=uop#3L?3gVM^B&y-%2R:?nuJLoGTn8HH@+fj$C$58Wr+YwW>ksA*[%jH[g&;3L#2XrO3lKbk*i:ti]7$S[<V]U>ctlhJ~LeGB;</erERVb&%sOD#yCaplFH[SUrHirz|yh!iB^?6jRYcAPb:U|Cbg1H(~p;/64s_>LFe<B~h,/gbI]Pj@ZJss/j*Ej(f1gS+^x]|D*+4x2-GwL+YBQ3$y3GxXm|04=4:=OAGq[zKS^gNp5J;L7/i5t!&w:.gBo4p!vk!3&gW+[cMY$VN|4,n;A[Zv6&A?^sLnAj$a9m+->%G$:EwFV?hQeA61s8Gg4?^f0XE4d0T=v5(0>MDLWOILd^5AMG6^waREdn_|xEsgm%[2qqUYhD1.IF7q0i?Fm]V16iVOAteW,Kig$?MQEimG!6=wHg(|2mqrETj|05UlY[dRp~pffay?DOH=wQcn2Gq&5q,,h5;x>is:fG[Qc?KOEf$]RXSZ5(D^7^]I?F.*wJISct3<[.[McDv~x8LslUBvP$.H)dC#8e#zC1!]1(mCpXp4mP;E:e!9(6&;CMXDA<Taj,~@Ncq9#i#FKPCC]rk/!mlNL=|rPaDhD(@~-Tk6jnG].j1N>c&",
    "!)/zu+~p/Stb>V[pb*4B,Ta2f%eC;q$+os$!<2tCCKd>)L?k?=TA6F)77bs2l(jJ.WRA!Fy@EkTbg!-uy^z]*Sr8[G+I&<@Qyv^@~W49sgauXkx_WCAZV8Lh0DIb3i0*<kVb.9;xSE/i,%P5)W*W+6L5Lv~bi;IWqeHL6pP@0%Pa>pE.gI7u%C_:H*@lKrn2/50wkfA2PO^PF.YedyM,yKtL_x^QsUriM|ii@Q[)hP_~g.APw?Ezy*B0IO7E,-jUmY|tm*X<E|:O7FDhSX5:kTc]M_,O]j)FX*-N?RK*<?f>r+SZ/A9j+8I]Z_i95:anza6Tn)o>vB?Hswh1.IO|iD6F1|Jx7l0^QWOe=2R=gkQ:-;Hy?.f#Qd*5*hpR_?bsUFxZ99n%<?,4zz4PXVZ9-K|&)o]U@v:x@*LlAfn.(BW<mN&,B&XS5YN&y!e9<NGTX4su%a[pQYo;?T[IjS_um)AafFZCIE90qw7+GV-/L>!nlqV,-xSm2b32qI-BVhW]~8!y+4DpNqNPMHyGIBV~/FR!-dlIzM8T-,U7^sx=B!f3UfF;hg/37fxra$,puSMd4x$h+914CbmJKmk/akYlOviJPm7]D[xOYhKM|w(7Du]a=_5Tkh<F.<3mNu~Ntro4c=;wSpmEm=d<b9R%5E3[s39I~c7(pM09<Fu0%J7+L4)C&q@*B>7;i]:$Pf)aSak+qYV5pj#bF;^CjkB)RVe0K6*G=e6p0:1.H5fG5,1f1)qQH:TGQk%Rm:F8.~O(FBFR.|3xAJ)f|Cn<~%n!UFGRg!,XXG>IGW-8U%/MW*u@SoTI,p%nGPy;fn)PmR|>^E%NJ/a*cqXe:;Fa=Ac.U3(&ZGr:D>~OQ0S+Qur_/6X;n+eAj~t=:[Z*sP^5[Xyu8oS-?SQ1DoT]lmAx=Pf[-qYT_-Mn/pc_i/Cqi-TI|kITg;,lorIDw<kmu>V]ruIPzd2f>&*V2:)=dz>o!7)[2tG%,/N,&L>W<.IAc_BhmDFi",
    ".#<RI4w?9zoO-q:(S>G<]0NCbT>7BHK=ib#]7?ge+6.nJBGzd[p5,7GKp*d^<s)]&y/&Y;t!4l6kq~aTIAU7D&Pq(v$XNbE,BzoT56Pp+|ChcIyO4ka@J+JH8<sbA^O1R$?@)x5q2uV=7mKq@FKXxi-im2>6>zGT%$Q)fawTI711BS^ngC:d~D2&n@V$>%C8d,l3BOIe6cOlO#yvcm!;G8$0*n;>Zr(WlyykT.zP$xe:N91-|qZ*bt,GI$e*yd>=FtyF;mxs5x~@s]3;LJ=eFOQXL=Y=OHmImVejR[W31KUdspIcWDL*>~FGaAlg|c6):(ESznqD&vem-fR=@Yjv~N[si%1;ML*=-1ZFT~O]WSt+G:Fzi,EuG]$)w*<?lTO]Xi-Sj8s3v;!qT@f5I|V50tbbfRi7(OC#X0UVA.+bqszrL.p6I1kN@K9,=^4ZN#S[]]Q5$jLE_7!|o>%:3V:G!b9/vA<+Ols-*djy1VZa.djvalaDu|9_,#U?@xZ3RyqR:/)Dtoll4/@vA2~~0o+moO[qWfRuhE7?[lo07j)ki@p(qUR8GPh,kD[uoyZt+gHZsl:CouP,O7t#qi(.tsRC1aLb=[PVUHq[u_3AuvOEZ$twI4ARvjm$B^5FB#]:ff|B!+Yg;ORwRrLH#&(x,jn^4K;>,0_J)1nGM,2^mCM,<GP)%r2jqj$.QWta[yO<,uX^4~1?T/ja#XW)&L+Ap%7B!gGa%$+l9JgMM@p&R2LlI</=>VOszUyn&K;Fza?7aXWMjNjd.vAAFYMtK*RY(JU)qF$l~)@Qd6_7CsS#rUieUSF:(2(%kh9Bzy,cg78hH6twNC*#1,)R6X6=jjeA+(+1$25X?9M>FU;<DbfSwuH&q&Lz,*Nb<?ao[h;L/9Y^@9m;N.p[CZw5B$Z^.zko8$cd#dc=w3,H?5.%TSK.ZGzF$#UFvuJY]^32Q;5$fT49i-piQb1v(Or8c#8E(Y9xgcVAnb<i<c>vDRt6dD62Eh0!",
    "f).nj*4_-wB_RKL$)o7UGDAk11KzM?i8d[Tt)HyuJQP+|kl&aKL(x5%:F?vBJ<oiU5sMN+3R6y~.DgRpfbP56WR||kF2~a7e$Zuezwvk,UQPplc2>FJ1wWLl$r4A+sI|)Sdn<$:7M3~E"]))

/-- The rare words of the names, each written against the one before it. -/
def rareNameWordText : String :=
  expandCopies (rangeDecode 6 39539 (String.join [
    "aa@eKCsPELOY:z~tb<,v&cvo9YSo$jZqASGt-KpY|o#,ZvQt$S8XTVXO&:8nPLuF83nB68*G4wwn@-R?>luvJX/H||z^]6;cfd_o1ozoj|$F3OY7~B;yFj5RJ)(/4u?BGfgfQU2OwJWLuUU&JlZ|*4y0Ad1fK<>1gK~=,%iIBqb6Z&h9b=5bYS>[aR.]1I?@ghscmbBjM<n[A)4;:%spc<.Nm@fvY9:t|%/,8(#o$#W2C2rx;?3;2t,dW5nnCu_&3bP8#gp9DQ<qw/wu@iXB)2P5$%(rzEWd_W-d:v*KGMUgwaw4W$.eV^)wWl8$(o2,o*r<eN+G3!XD:xv(iO|:0MY.~GC>y*uTUhk]uRnhh-amI8G[Dp?An*$zcBz@s-,u1-WEsLEcYzVp|UW21v0WrV2Uxd3-a?$]IV99NSCPH=tuYFg~GGg3<3)U8zW2&<^hrDctH6Y8)_]a+0O9pC?~%n_TYCTHy9|G<IG8u%c%[ek#0lFX)aI0Cnwe~sqGK;Eb;)+II-yqM^/Z=Mjwb)m_zUYzd[[|?GW>wGVhVW#)TE]iK*HX?b@DPGq^<+2mf>Pv~j9tOa9nd8c423]!Q~mL7l_HF:rAQc%oC/f,as[cpKkc.1<V?%ov)sk^FF34vfFZ#W.TA>r.=9WSmE/OBC0%ia^_W13SViYEtb!PK%Bcw5dU~_83qac^iM/DF#McEPrw[p^]hJzO<B[axj(v*_c+FhZ5WjTy6A%Nr6/.>$#A<@tG9(t-x,ju|=TW5>-#ws-|S.rUb)HeLGC>b.9-;U2DwpGnTir()b>,&9$H61kr0VKcn-UQKhXI=?/VLxTot/on|=#iM,S12^oLx4@wYsSfa#0tz59Wh*an2+H.Ftt@MZc@03!%*^(=?%1nrFh6$Eig[n-+qG<%r+!87#h[*g<hi1a.[=Zix?gko4YyNcBJv7K|$sBt%2IFgKmQh%xD)On/yG=~z)AO^Ie-RFp1OkJ8jADG,m*%B3Xwx%73yO[#",
    "g2J4=vJJ:_LiO83dzP7e=8d3?u[@_@N0%f*c=(])BO)iT45kA8uE;eo5QKUWFj)7&Y0Tqun;qH:96Y#Qglcxl5saK!Y;?WgNk7xDsezJF/qwMuL)mlS[AayP3<y|NEIEJ9gI:f(:.RT!jTZMjj40@F5TZy=n=wDvplZ7,4(O*?5M~DdKn<~AE7UwXCVb~G+<P#nMb)r]aoX<|N~c,m[sF?i7!9FgN4vOeZ(;:veqh]D+KaJfl5gPSLY+Jm_2%0#@Y(>DNERQzi(=O%XDsVOW0Y7K(khR80i],rT+FgHp~Y#xYo1rcLBYNB_9ZK)YLh#U.JeY0BvqCGm/xJKS2%MZ.86z5i?42d!#A[*=L-$M7Vx;.EtxBZ1WTEE1oo:XO7xzw92&UqZH9L3!hhKJ/aUw+481?mj^tsI:I@1444AtJdohof6aTMf;d8E.o]!F]7_]c$Ys<n52Q7_*hxs^[HKd-Xx_0:drL,L&l!e%[TO&Rk~]4IqS&=[n]kvE*;En-$uy&Z)]*GKuoAdvg/#R0c/sW8ZJ[S_G4AP?rSs9_?5QcRy,3dh>T6Vsb$@Ds>|*<J%kdXddz)?4Im1.992ZHoE>R~p[NlnABz5wzrY6NUk^W&=Bm74*+Jfi(k![jkmo?/f6es>2X+K|6Z^|&)^;r9;7cG5Qr*vU91rjIj@V1S^,y4>uHKEtDaWh?kq-D=#=I6LrjdoiMImqt_@&kqN*hOaH%A^nJP>fUBias@(D8jHxq)Ft4W:d[m5[,ZIE+gBE8!W_J[*1>Py9[a(T_unvlo$3tng~;$IGa%k_*@lDW*uX7uJG*#D8>E:D(&yu@zScZ@0l=jPR,KN^:jDmwv#GQzI>mV7tzoY_IY~gnJQ/W]=EgW?P3<Cb*Ko5^]msyzoP/IB,*biSMts|k20Orfaf4*#y*B!9e3-s#Mhqg)I0n3:B:;fmtWgcf0>O?pC?T6r-j1G3=[e5Eu2J[ldd1r]EcD/4Aq;b-m1d7mER]At*X7!+",
    "--@O#DpJ8>K-Q9e8XsB[y_%.lxr1X<~*ht(8FFX.~FP3*wJs7weL1;e77u;q[j1>R(XMqa=_R1EGt/mYW)2FYy[gu!zevt5tlsPcU6^I.jO0A[7ST)T0lACtwp!K<E~p#RY(/lwpQ(h%ze^9nG=t_&-=LRr@LIO$.-4Wux=nhmeCSq=E<$So&|vj_IuB~qt!c[f00!MQ@%ruS)50zHX)[u<1M8a]c~t6k|>1z&9TwLt3Ig,qoLnMM$che34y]9PK-Qb(Tc8et]OALjYLP]~JIEN<Tza=^WDJy-V.Rl1~^PV*q&p]Adk*+<oq-o;,-)Dk[kEbmSgh$zkC/6VP09(to~UO|H?n!p:>4C^?UB*i#_lub]tH<9AC_)STwgrNBj0<NQ<9d_bW@EpiHd!fx9tGa935OO1E;<%J0k%%;,p.[9Lol]FXMXn,4-_Cy;*ogo.&?9^XdusJ~xm+Epu0W5(>zwE3Qb&bk@1YlBO$;fTat5E=JMA$ftN0azEO/m:9P/d0o9UR$)c^B@cWAdlJ4$g5-lsbxU]w86q6V0njx)DQ6[bbg4st_++@2k4;FDklEh]84ewGAcsv4?,J~S^USG%lc&Xu~#$U@^S!&bn-,GFK]yeH?@$RH@cjuq3%AnUmn@Og707ax:SP&:1mth[n>*fJB0g80^?7J5po$|K_~n9-e./Sjh2=Ls]9bW!7gkP.q|zTY#?#cm9z!sC.F77z=*-$-WM<rDh,]F7M9SFmW*x2D+kARzMwT7A|jAxoRrFvEX!Pxl1JiQ%<sVPYpcFZxo7X#iSt(Ta~rZ([EZZTbsh*e?Xe_^#*?TW1;<eNQ:0@KLf~b$v(#K^.%LsU1M3E><krXE&nYg!-JKh=&rH7;dx~C?;Rpc~i;QZI!:D2)v3pPF&wmhS+7XWowi,|[oAIqx+;oz[I;[t9/2SlJwGvHG.NPNx^FWCA%MPdDrSj@nCIIGn=<[<:o+8CHrSEABkU6vNbyIlat(dt=RNf(&_[Jx.f",
    ",.N3E9t^2K+K%Ga^dr;x,U<yK=||b9(24K3?[S!7=c~pQ>s?6l@jTKKwMEeQc]GcDQ|ii28@RhZpBIU_/@g-RUd-.ak]Cad;87ll6;ZPu@6vs32my>n5BWmbkjDm4,Obm[~E$e>UG5ZS.nt%vjO4^Hb~_E7xi2tj^g5z&50RKE/)L(~?C#9+:)cDi^5n?1w1_!z^hl^#F/)e.#ZCg<c<M]W/Wfm,7<)QW,$9Q?YG>q-8fGFBi;<I/|m4GyYjiy80wWw$^e]tz!f^|55pi2@BiTQM!,@$8Mr6C>i~s%:N:NH-*gDLE>h-626,0)>;@z!(5knN=Ivw^^lOTVcgml,~uo^&.aW*$GZD/VZ%lFNK%pDmz^f:/:~>bBM~2>f[J#7w^79=!n#+Jf:O#yxmx$F*d,UK*#*%v%c-Gq_XuNwl%42^&>Z3-0rTY9,Z7f;+a.FS.xUHG2M^.2zm2y%jvIcAO*rV<,SeBb~NiWU;V|~~?e8%dD9g[M]zv|V,cW~qn0ilPBE)C;26*UGsjZ?%=X%Yajb3((2~gQ:BpSkFXMElf>/o4u*cC9k^E+AVi(4S5OG3bG+%<$8NoP<1EYf6S^9kqu@^0e6[JaQ]N>H0Y&&nA@9V0IatOg]R|fZ-XT2Mx9/_e=;-/ivu]B/~(lyA*0pD9mXWC+Y|<%%$)5USAk)U0wtXwJfpkh~Hxv|E|aQ0.0dA=ds~s%|rrradKFL</LlahiB]rGbC@G=H:PN$ls+mvG^(N)%bW65+1%9|~iNeUMoMh5A:4~DqGeu2^6>$[KRsO.>59u<^WW)</;BRD^W_wXdpmuBYb892Tx1O_B*-=^mH4nn,TNConu/7EwL,E0[vvyk.cB+Yy9|SuDss^f@<Uh?*V.%|e3jOh8:CavngsK<-faXh,m|b&TBYT:Pt3YH$.Dcclm5(cm;he^er=M[P9p>E81a_Ul<FzKXY)azXFpV-%Y2ZeUv;7tc|@.xK&&:8K5q_g4PG:(s9<0ZX_yw2",
    "j/&Js!K2G>-.d[T/FcC/^heX72d2V_Cif7UcniXPjcb3hS%u*M|/9SVu1wU)V1I;N$^g<bTnl3=_uT|+I+wt77ft9.M>^*Z!mvfaW,sn9-VoDY*37yB~0n~Qz~C/bJ?%=K**t#Q-_IXX#Tc]4c]gZ7?+I%#1,pYa8HSHDET3qLgrLR;7,,0h?GmKQ<UgU:[Kz-QehK,5!A_D=H+WR2Um+i^ob4a.;KJjGlpo|>hwK%G41cReS%@,t_%z!GYb;]:/ECbxWc0c13rMWeo]ZQ)8Avk:6Wx:0Sw*4mxqvW0As4~b1E/egK:JN3kJ>Sld)j!$Fv,S[$0yntO.4p]Q5@Cf?-+LH2S00S;o(0OG)i&qkMg$U2@WUxlwmy)Dq)A.HW7QbFdyIEqfCB;%[CPY*;V@yV)[~1a8/nm/Xsq17e[~%8^s%nX)dw,=#x,sxrh5EECyCJdZmh|LH.T.$<7;&L|MG**$&jN-6i,C>aQ-NWA(Ls~lblV~Ml*H(UBf>y1:RW<qhwAx7M8(WRxVq!Z9s^O*wNH:XLll8qchz*RZ@,opkKXt6XQ=)DoMT<99DW.q#$,?_g%7i8;s7([(]8O[Us%8H7Rf&6n^z>t?bNHkZ93H>e|=5g:Bma3Yn|<)u][3irGHDO0VEfB=nH.ZA?wO9DIu$CMj2/A?JN_OlxbS>LUP;;kF.37YI1X|@odjlM8Ok)r,Q>q>15DapzD;c/eL1oyDSrILUtrj6h(rYgE1<C*^ORNPM[th(9:31TjoiA9#dT.7BUK$:5m&fS1<bXnfGqU^mwSJJvCIdQ#T2C;lzrv%U+D:jzdC%hYBye+g#X0B7)G:j7<3fEOf.!Wmz,1,aSUIm+-q=|XI,P^t)NH%2C]H9EJ#s:si^xN^-V2DJlQ#(UBh(*dvZhkR(4A|--[(f33.+.hXGd.#>k4t!^RF6-%>RzH&f28bCl3$SnDja?fC6ZZS*5P.3N=0|Ej4j+8Y.JNOX?^|wn9)xlpC[bcmW0Kw",
    "kBblC$VM1+gDu|6tMA/NG^..6sKiHRME]l[$D&w5qh~PD|oUv@y+>cs9+,_m?Fc1;[$[(QVE]T|=CVtQaL^w-Gr?wa>~LdG=9qb-eUEVC0pm|RwW)@=Lv-pY33Sqk(IyJuo031%TN_z$<D|bX[di;aS(j/smwMT=GFN$Gyf!;XhWks7GMrw_rs7kj>a~/H.9E4_Ufe6(agsbtjG2Ps=&]3^rkOOonV*&!PF#QLe~oO#DkC,^&ti)J-hlsx0f8KeeA[fZKipswafT*,pRPjh~[X:]OM_2B9lo7-<xyGHr$s;BnyMi:Gd[EnmQS39%Wzh;46TR&%]!l9[JR;?|l9CJUiq+rj>klZCX9(ctLtqZz,YEhvqLCm|1H4HX^b8mX>QT~Yr!,5pVP1>6>TzZu@PU!ZY$A%oNL,S>*[t!i1,=M&8BRQ6v:GA~z>k-B5(s0h^pkokhHr.I?pnwwqvN.C~Qh2kAl1>_*=DeSy&a),_v;18g>Xlp|kW0&:&M6,*ZW;j+&OA08:gV[%Z_M@.3Lwz)q<!Go]e)ca>e6/#F4u>X/a<fl/08HS)+.b,wPL/YE8,;1|9U1$fl11!M(C%=&B#zxdq61_?Nr4&[dgAEiB%MGoTP6_tCFj6NcN2@noo|f.I$&Y[3?h(ymURoGg4QpdKRMqnTYF%f|((ZUCYe]+gHAwoG#65WFsimj0jqH&%8UNwAFG0n~t<L9@n8y7N;3JSN@QD*bkKD4ZYy?$ws)D15*V<X2_du65fb,Y,A6OcWzYHd0z3NNY&N1tY>eZ<7+jahe,LW9,Z9|NRKzp(E&G^_&ru,u.Dx5m$[K7g8Uko]8fNR^C:d~-[:=l)R^n?k2G+G_A>Mk5_r,e^+U|PCr65suw;ajG?ISAZ]2Vl)GFpg&,Is=&T(SBYQBIQag?E>U<|<]pSAHr2/OJO/&RO+!bqo.nw*$$Moi.]LX=45j&>P.TC]/L;z~)OojnK~2Jr?T]NF_@_%>?vnfy!T]tbB6V@5",
    "m(avn|6n?JVY5B1ce=-lv@/m:j-w7+|Xrq[_6~|@i,l2iNm|m@9lk:hz]V!-V(oI=;7VUaQaHYnKbvKjCX<m<zdaI;=lkLlcV([);/qxy8;0~to^n$.lK7[V9mK@F-2I:*=~FO2C(u;4ER6P$x7#^/=KquYfoHXpl~x91)q$xb~2Y_d=q%uaNp,PKQ#SOdWbUI3e_*w6v8XrqUaV+zv(KS+-I^9K<BpDruy[Rx-MX5wIeBYmH4*Eq<*y8nOgNB24OXDkW.Q6Hk)L[(@NB1*J_YWP*aHfiT~l7+AXL]CO~x6j~?z-raG]U(lk2FMK/2_7S?q<>[hW7(6.G^t=;/1dmxUeB;w(pQpoOAk8d%U[$Cq)2H9cHe@Y~P[uD)PU0cvingAHBlkc2<np.cGd%<|GWMshJTJzPLU3WtX5W_Ji=K=t@IZNz*,fE%QUjZ_rDhsADg%XKom;QE]9r+WWCat7lrLJ7T!csW:my=m|*9qgfS:1gK0tn)N0a>nx)C%D,:DSiG*wlG*ICLUIIs$5I,[ZE7;ve1~ggxgwv1GVPk^x#/S+<%db7;i=w!hfYED2v:g:%laKje9oV+h:G:~UL*9bLiuAb0YT-[6IHlo]^3IO_gY@vV,$ZcYkxk|)2VZE$#*)DU%s%JUR,?FfElB9QnGXBoi1:.W*GJWQ|jRS(O8HJGn0GV;Fnoxl5Pfi&>(1#Z=@-B&0#=7]DJPi)3@pwOwa@LVNK0q;MO)8&2E*3tVW^p_uwAx<3numT$]~GCN.(5qCt+)wlpNxW.VYg-ascbGzz,?d0Fpu6?_Vf&f77ce2?hdhC4<6Q5shOR~hg@!0xxTHfXgWxC5%IcUTbW^ExJc!Ekaf:AvoG3%bD9VnN46fk%vdvz49A[/,HiimlvyQ%1#vF3Z16?<SG9c^/5)jX4j+lNml6A0,zd)<krC|=@Z#0qOJJ:[CANp+@rJCWh]O*cQ6=o1xoW%PXGP=PQpZ$Y&8+65sX?I78iE:3U>o!@xX",
    "DNsQlh;5tU8esAC]Dcs#hF?wYWSM!n*4VyngE<+GyM&kF_7M|x-Vhg*R8/^rZVYDw~$Gs5Z?Z_SBC!iWVu/eaw.5odU?Wu#+(%#fM.wo8^!x.P6t|&.R#<hP5Y_/&VLNi6O$?KM|tkU10vS,f*8[FJ@&Dc5Q7VsZ9H0B=uq2oS+*BWbE)!9_fo5)So$g2R@$VA/meS[%stSp%|nl0C!rc]/~ZKI)GKb[[4bo>Y:(>|LwMDWTM46>DvaH01SAwdy27zRl>.g8rto~31=CySJGfykv=OcU^kwc<eWkP21JWHlz[*P%e]?oqN=D^W3nju?-vXg/Lnyoi=!4aT?BGpRVO#mI$G)7fYmat;^<IY5N$H3L@yggr$Q2P>|Ww-?@LD%%5IEtsp1t%Qs688Numr.0iSO/tw3<HiC]+C8(Jb0/0^#UCC(wu7:8QX!]sr[Le]lMnTxc<cx@m[w!QVmiS#!=/|Fe26D7[8[3CFu_7=/aO3g8+2kSg,ESe^d>*R=fL.nk@&sV|3.X%&=eHp~ir,&B=_iwu^LdUk-P0kdW^|+k.VMW5dP-EBa*,xc*JT,4i9HuWcI,ebauRx]J5vK<A2xDRGOip$W?l[/_>XEt%i.r/pJ]yv~6iLHWDIrDWB1&=k,26LswLbwG2><(2~at!y.yH=D;(<<p7-LJnIu;$5W2u+a[$DjkGa?JaR2NHv+JPWxg/B;Qy6e(5FH(g>YdF.KM5A_&|D?>s@P>,<NK20F)O5Op>RwaFm)_JhrRJuzF.e$7h&6GVm)PHr7?W<]L08EB>gQkS7U<5bz$xJdB1<ik_UE;loShH-+fDE:-(1XMK$|5$v(>%v$dFmeKV0yld3YwQaG5GpbvbuL2hZI8m-li2zJlF?P/+x+qAu!;sz1CZ;HCJmUgrCx5~F>-&c[<6z^j$5*Ea_6$<rCq4,Yvtdl7ilIwu;G|5Yl4Ctp2>T[^0tj2_i2?<cklidjH|%A#8aE)n>270.X9hi?sR[xU~Y]&",
    "~c2d#SF|u4JDoFgXy$UW)V8,XYFpkY:nw@4?G6I)k7Jw.>i0A>)w8cQR@#]L6km:=Lf!lcx?A][1%Kef8gOb?i*C3.&/3J7#x846EaAxS=aR~6=F@j=D^iX$lL+Q%;Dx7)S]%<8kRw%aKnc=fpX.$9c1a/d-[YwE*k&8?gNM@Y4?$]=#W^jmRCK>%Dg[m^T#h0S2^-AP/!?FIWL:F?AE./Ghm%/Z4571KErv(sn~W_UD~5S^x-H5[h3^)Q*/TG:PRKpukZZIWZW>d/fasG8kf[Z_vl,[vJ7jVifhM|O$=pgpMx$%H8_dCmU?%p_FN=GA[jm772;8:92QyB.jI:,2,21t-sX7ffK/PtSGZYY^wod]%=SagrA<zTr1xx8bVjL-)1sZVX:%F/J-R+_OZ9Qz70_|>rHG#YOFP*=wW-EJx[#?.pZ,T[)]<lPN>7OdgmJdH.L/P&ZN<Wa~_B*.b7,W|ui6$Kh-B,E0U7M.Y%na6oOOp:oX7bGKF@PG!/)IdFFL%z*vN|%NOkv&C7BG#p>P/fd-KJG#u&#N7uz:%2%v:0R&hTj+[UdJf3!tz(kr!J*#N8dTXoE&.~%/[Q0CC[FU0x-~!,/ZGk&R4~gd&!AtA.a(WA|?xBCC<L--]v46-:j6:]o&~J8a!e=axza[Yn4I>6Kf9u;/_j):SYsRUj(?.P![RNy*]5&b0wwz^x@1*RWjwl12%aW#!K%bXEB;9Qd_RjeZ+r]X^SgLtjao5,-VH2Vx+rT-76=0%cJr15p|-~nU]&9^]x)e#;+)R>4BH~TwAH+Vz1Q>cL_u|6yOEUjgA417/7yfSvb)l9dp1Jj-m;Kwh:*@wch*,]iVpg6)ipTYQsFnJ3/W1UI;T^U%Oo+(46^Z9U+rhQoPq6BgGM<whGaI:Hi&r,2-jKWN-FPZvj43e*ker(aeC#:U;IWP6a~>ePOXqBWycP]Z-jL<UdU!HCimXnaPkA|,p]Q|Cbg3=bPM|k|lnz>1~,,0[K|!/(0)",
    "qeCSx]l=9P#wJDwlFvzGw;iVn?Bo6s?ANE@MU2%/2=,BeX;S$VH.5RQsD~cw|b?&SCE|bh:Zm<3[p1u|.U#Ljnf7(ZPvlg$-a_Ciyv]SX,MjG-SVP:XrdfDU7;$uOMM$=V]LO<1=NrNW)M>qVo<+6kt-[3*DK=Fh)u=8#0UDMDE|mss[Qp/t|]EQxdK?fEAK&C<*M^;I*doqxRR?.g:c|pYJTq,0Vf^,g6qQXLm$~bZ4+K??7xy6r(NC#~W8&.T,]vuv~MqO4dHi+J22jzJ+9m=qY6.yx]ej~ST>]=r(y#-tF_q8:~!0|D%rji[RhkYkiMADat]dWJq)Tn]%lL6W5:r*z+7f2nMbuxp])vQM,LLf|YL#vIjnD,sHPy|dEBCnvQS)ajbA=UDfN1D@KYq@V)9Z;)]ulq#@7e/D,Nl3bWmo%Rfgn[pa.DHS3l&a<u!;([yF-T$8+Pd^]O;lA=6Mj1#;Ks%_<|OhoYD)4b&G1v9QAtJ4/@<b*Br(/;?kA3:~;6WNq4P(OmPJmBI>k%wBcZzzm3n%^65(Cb*iS3Vkg]v;w:5|<gou|roN#akLQM8/l/@1$Tk|zRMeVx-|t,t!@ICfO76&4:|3ecz5=g7y*y!m.gj-IpHN9*nO;&9*K]=%T,oOd[Ou0q/3Zrox8N)nI!+6/w5$/<8h|,tGI;A9lB/&I3yPF/p/KLf.>Af<?xzM7r^^@.OD[0|R/By1B5e#fpTPO1fD7|xXdY;Jlad)Dse!jW|5IgGB?#vCkPt?=2ZnMINKxocelPc!~rwJ2aNk0/V_cY-XWFR59hS@DlW[*8nWTuj/Y^F0IfBp(F<-msi,Q4.dS$.s|G8&W-b58>j##k_$=WhG=J0~rX3LA5_s3dO?9QKiOvAp/qW|jGO0yRno%~xOEZK5go~WUny[BhYHeB*OS@Q5bJJ%LS-M0Qv&tqe|F4-.p&1zo|K4Y446sP_R)_>nC!]w;@n$K)9tZc^o0ZLr:LShB58Znt!K719j",
    "q&HAh%#W3J|[;Q()P+2jr#%#6$.gR28Mu53eXuPkT_tM<)$HAEbGJZN^&8-Lb+K=Uv?jT<Ltm_g6bdl21AAoTk2d*j=iZ4(Hl2+xk,5Jg@o6P03vHmi&UC6OX4UZ?v%Qi?*h],5j$%jSU[;n)[tNtcZ?qQoUx[Azo@_2P|F8Cet?Kp?6xzR/xce%:0tPtT1n/:zku&9+#lZ;$0b6<-Sl@#oN!=(~GPR*DjoWE:Z&7;AuC>xTWz^TxPGc*g%oBk,wkj~^mmo;~DpD2<#(C;fyN,t7oJA92xNs|yZ!X*cTIxk,T,Gmg8I.m9weQH!gB9wo]?@tH-RvyYsjR.irlAFjZEqbQJk_Ip!;A4YBZ-IlQyzw*BHwrKU.@Bw20Uczhr#DJ,,<XNVjrs1t2?osVx41U<Hu2n2lHYcn8hof]I.(.8^b&QPNG<R~of3si)]]FJK==&)!^pC(,(Cq#3Hd5dvbc7c~.]t;[+.#EW9YZh$:([.o!Kn4Kb2=PtngdAIt7mX!W/J0y92$2][-jh$]ZiL|C=x/DG(//3(5BbjrP>CKdi9UWV4gP)8/rV(2>M[=dz:_EnH9C:!lnjTFO]Gh/w+wI?)8Ba+0,)[aBYq~)xVCnjVF@#RE,Hr29iI9lgcDNXJ_:4zw?-mQmFYt=:qkHbU4HOHhv<Hd@*FnRKtcFnt~AY78X6qnN/aqR?n(#BOuP5Njg$6pYodUPG[T[eDaxau@rL>(MUi6J8)ap$Uh64>y$j:#w1qnM;s=/MdX.n[OQ,%HA9oU]o#8@Fo$lpEz13FnUouKnmd+[1I1$c0l/5#w_5yb_AZE3WiSUkqiRs[9eco5trR)wOWV|0K#*:@hkx#~3T,(MKp:rEhxxBrSEtX|*aC7.0+S|s81LoJ(7yv0fm9K;qtt$)aQ9SX(8pX1BLgOw.V%Xh|~;98[5r=7,[xKsdZrGcQ<?!jL]w5Ca:j!~S1S$jg![NR54b>[:@!h,$_EknKkgoLecQnb;1,rl<$F",
    "9$lF~%cV[-G>QItIOv8=17xzw5On;gHG7Z96D+DcL.]L_)-J]:er,r~52(&XG?0;sk/G2Is,lu,Q/AUb8F5%+s5d~3QST12&+-[lo81jW1$c;hcP&);cDwT]S2s1vY90g@4R+gOQ3:.y<2=IHS!DL+g)/T8D.mPUoFi!:P.p%XtTAE&NKR2/|uzQ]o:[!lbXHj*Vc[@Pv)8DSrFo$qIc(r^4aiJ7N(Y+GFtBP<6QZ9<6qooz3d+a^<a>(|&POJenE!UNHb90<FD-0mf3GB1n=f+SzS]d~X%k~P[I+w#wsZ<2f34Y$n2R#=rxSU+^JIjvCe3sQsi4S7SFeYzVJvk[*uWg-L^k%*sy(/*[TC[dKUNt$s/U-8V?<T)D&P)r|-r>Ie@kuH0,3YlWpj5&&_~DWfCB>KI@[<<^@ul%i,!Uu(!~iUW,3P<zov6Z<2MS8Cak47YU,C_s@#>6e|qCeU#~vFQ2fAbn#bYx^Dt&$~5]G=?!m:FUw+,,I=zP:#tK6qYmSx$78Mep^3;2V.!MsjMV;*1[Qu,,9~0d//KvBD#_~H])z1$o7YX5Of2L?TH7T1t?Fxs4gof|D*VNeSFwVEpbKhUYU@k:/qeNcF%7;SAgt;O$x(W><up;/MljVur(X!wyP/.F[$lb~/>f@?)If(-ODd)GKq&ShmX!To6G^upS.Si:rO~KMgJ?ICG.n|<]k5:T_A:ee,;Eiz=2SSS2#hPkBKXN9u^##90/r/@/0g9TM,Xgk_;GQPO%$-]Q>Y5x2&10f7T0@+~[lcyj>u>TGj<G8o|?!oW4of_d,G=v1&CO&MlE_aL^:haPa)T>H6glrcv$)-?LcPLj6m0WTpli&G3cYaFuygJDMR(.?Rsbyu%)X51x87nfege*?V1P&.bh.vq0?Y/ZL,vP9xG[b]02|J~TOCgOI?d4NVCnp|F2?[iX|Sj|||3aC]v[<C_X7BO-_lQRzkqqQayWTMZ-D/slwXedCg6oNmF2]x*__#WOfH&b",
    "U&3yg6ty[ES7DE],IHGWl0JT4R)QVgx|tvqmcE#:R7,IEN=$1rHAi[xoAcCuK<8^2<q.z?@nrS&%02g9PZ(cZ$gc#.<h8(seq]VMhph=9-$<$oKUsF$IJnJMn/.xdL0Hv2eO:Z[z8A&CQX5:MhZ/IPu[o;q48x.ob55M&!h>syDT+ZTRF+F&+Q1gN;:>uJvOWVEzTdeRDNb<>b?pPs*8dyC_YX6us)bn[^p.U,79Rpq,AgalmW9Y#@O|qN#f7IGGlw0Z|Hr>:|Wv*x6IzwM06Gw!zR?z!8Ad3TxdOoc$ZzP3KH<GD+(5+.b0CfXtW22xFUq4Vw3+?,~(XlfnUic[+/rVOZBr!Y0KY+tWq2Hzpoy_9LTyXvusUQIx@L|*H<HQ#W|c6!Bi<CDtmkc[9hMCSv[|(>-r4,@0GW8<c2_^=1I5xfv5T3EP^Xa3EF0O.*wvYi9)wvC0q?vu/DwXt8~Q]O%|M5AKwbWcfXysp]$^ugIGs^m&,b)D3G&HNT]Iw5G+ut8(Umgym($*$@QoEEHDl<+rnXW2K8=rXB&f_21yK[(TL7:~&K9HC^4&4<la~[.?NRO|Znq+i<ohs0Xp-~]gEWKGn<ow6VW#04Ug83?c^twqJu.He:FHa=ANWmX[E$iqY$REe$xifNy>,[WI&KOTxC[ZxFcGODYMuw?Q!y-6n!b|2RxYW_TYG8Tzv|LO.z@#4|&t=XlHWUd(C9tS0:mTlUf+&7HfHJ>ImtIpw1Jo6#ac-f!aCpfk<;E~k/G]Cx/D.W)fe,m;/uspM.W/iUU]Y@0qBa]E7S8<<cFv:7vnp95rj$&QbqfR.Ya)&@X4pm+o[=AUw^#D3L*qgNvv6[Ew<;-#t)u+0k!dJ5Cy#,G%WE4m0PbV~5f$;;&?)D*kRl/K<omdG%!Cag:quf*wkzr9<#>2ldt^2rXj(HzJO!lLf$8j$YBAypcXR,CR|Qm1hsNis1CDrZ.bIG;QTxNKW~UDauF|aKwW4*VhFb*&q~U]",
    "w:&)ZR/_bfql*#->k4WL#Al.3VRJT<vT*&g*q#bZVvjGS7224uK~I:,FOaEDRF#~BL_Y1y-ys++B/^NUjO--76IC1C3#2-X$KTG)i|ebT%/[FoTEh,=tNgfJS9_tU6mmOJZCDh0:o_x[d%.aFZ?9R<DDB29,cWo].P?xkSlN8Ue?/*ivwV(iq!gN=4vLWdmt_sZ4pTSn2OQ8:UaA_z!vxw]3bOhDY+pFo;_y[dP;s=jHnMiy_lkMU500VO<!)DGMD*Cc2sd;L(wv8*67h47wq_jr_y_:cqF73TR;E6sps)AvWyH&#uz)01e7f-Pw)RGpC~v(j!rt^ORuMOD%<G1Dm@-fSJXW>2Zun/+4=t|Mn,&3^-AH5)w[kUJK:W!myC_V*yLMNk)=?)r4x9tmg*1h3P>Bj@joh2~Am1^9^LNdkBTL3?h@b/m;qZAeL:P/Ku#r9fIQ=mP=K[4WD49|5N_>V@oPyio|NZn,BWW@)=Li:KQ,j4Ss[5g%Ab98A+E8k,OD):;-2(BB<q@7vO~lp+vDXQIddP7%z[Ew,wd~yso|qoN?-5ctGUqjt55#&skXGXDno4%v2brsTXEI|1#[iaj504y/wd3QJjgd:(|s09f2N<j&~<JOl[<4lCL>;drsoydScPkVstw_tWBfVf5~lW3K(@QbnG4PWwCy=j]4K9#j^du=<Or1>+#kTwD(>yBuRNO47qYgXIJaa:En_ATM=i!XK#/?wbJQL+o&k!:B3UTNWG^l.cZC^;uhr~8SWi3PyPb8]T2&=]/>BO7a]THG&Dyg;QG5RLNvx!|dO4+(>d9#N!@rr<Q.dyI4&UJV/!,mGYtgFmUBJuwHF_35el-Eev(4j9BL7w#rW4O?=#_<|T=6p^$Zl;HaR7r5QQPHQT+[uT1&MC&jn#zmA<%PTdEWby#alj9WNt!ND[A1I8,,g#h<Bwzvfl~$r8[E1h85sY[1.A;aArvB-*I-t/Q0*J*rDa-/A6200lc5R=q<brH/CW=8",
    "F/4R0/=zXCzT?2By|RA3x@~o=ld~~>XV!R_aqBaDkUo.))gI6<6k5_.:w$.H7]%T)T;t8_w/4=v>Eb~fKb4g(ieB+Z*_SFKCkD0d:_8A7/R8^c*2zaewMA+4V6qe4#JK.R=MTUbnhUFq[/+4^%c-lekS[jdypgoS-y(m[O)y^C)+)H0)dHFV@QE1&5S4CQC%Ps]7sR[hOb::rH.I?oCZ9+/UoJw9|+;AG&BfO^E>_f6$I6N=*2L_w?=|#e|Vg6;rJRpK;2Qh_n66<F99f%HA<-X$sgs*Bh$O$uuHK*E27H+B#1osO@ZaS1om)(Cb4bjPVVtBT%mE&SWw<VeB9gqbp1ME?wt_<D~kRVL[M%g$)AH;QX%/t@D9QI9xWA4K79TYrH!z9)>Q^VS#!%-B|0iQG9[t;YT&<?SW-BY#4_Szt0X2=Itz~x7KI$(X.]s8w#)oEh+V,awD|Ku_tO^*kwE.~4NZ>R5TA$6k~Toc|O<eetMN,,,NZGF3eCK7^x;eE%w6v;KD,[G4W@66JIWkuP19^1T30/Y>/^/_FS^~jM]],P+2f[kcejzgeHBQT5f.(5UFuc)+.QH8xy$B8OM$7+Ek1P?H1PA|2>+3nR!?yOq6EdteZ^>Dx2)U((lc7SU8Oil4CZbtq/S!3JUGe]^l5F(,tg*+0.XiV5Y<,<rajfGS_BI;=ITyFkfMi~|2y7N*Z(,L]|8EwZ=Eu#bmv8|h[PVgO<1WP8S%P+H]q,]60j-@]+0b:U1Qe8v#~Fj#<q$M6OX@@tZH_oFbkmB[]UB;vB)^7]dy6;gi1<??b4]9B;o%VGT-rPpc2DL/U.;D(6ES))6vRCAB?]-0T,ohJv8T!!J=3l^@C00,Basri.NJf&j,)i:0(crBqcB=]^L_ukq+Ujpn!n(3>vvqX;Am8e9]KL$@Xilg)j?zj?h3l%W@?2vNB*)ubDMr~hm$.,cCrQcXc-exQvuHqp.v@/g@dcKuU$+w+>QOO(O]6RTEgjNw^V=4",
    "kxLSP#2(>.?lg;5%yKu-g>UNyC?nLpZ@7)v#6XR^o)so9l]Im>K1B@K4_<fT4p*?f?NWDcYeZR27v^L-Hqa$qZ8t~GBRY(Vn9BoRRaIBNk>#NXB2c0ypP9!c7Kqvygdw=4j7#~##$9ZT!UJ|r%1bA*LRIk0m(o@ia#ZkK%Ze^M.=7Bkp!qq(;>+t$]PqS~cDKKrZsPZEM-7~[h6zN^)L#/6.k5n5L@27o^R^?Ikf4eI=vmSpDGB>$9Fp%v6XB!9PfRO+<0wyvDX2]416sr|nq9&M8P=+#D1g/F83*fRkZ8qiuuRiPKy5/zjxKBMv|7Xasr+@]%o8$k]AiEW^K*S(ADW2>OiUp).[U*)v^$&E/yrJa0BzEjz?V833mDIZR_tWlzv@V6sJb%UZWvQu6Py|Ezg71R&X<)o!m9j-R.t!8mas:(Hug8c1u>sN3aHA:*3CtP4s92si=kRk.CGL15#ZXMIbyjYLy9mu3UWcT;@wxZ,HGYdFpe^SKZT[jpRAH=)Fp|ypyylR(1D@;Hv^]F(:Q77.Kd|]<y$/fga-9q9f5@*v+I0p<ZGH8/f|X0>u%rHdpP~7)lO$5b^-O8#UF(oSTg3sm@2U(HU?/DfRx+AV7dcd7X^G&1(1f/@t.=2)#]]SPp<&D9NRy,Tc1.y7#66B0&9yigbO~m46hit8n#j3m;jgy0SXO~,I?U=&i6iP#?8?OvfI?v6z.&q()l_THoB9Sb[Hke/-Y&%,9|prR(+d5!,bGCI%rkq&$qh%f[ar?C]FNG5<NWDgO7(.jDX<SOvr74~KHiC>C/hH/#m^cKQd6,pDtRK]]se6hHa/t.ILkQx7g4*1Z9![QSZk,#<aD;HxhW~z75|e!,A[ah~nsylTU!l+Mc1^sBZ2e^#=A#6);0kUP+c!+XQQ;vxZ6(Bip:ac8bd51TjMcy+I#XK+Nv0J@id>b;9;&&wZV0sH_F&R/07&Uw5,f*oFFLlKIp&Ei$gZd/-x5IA!b6NY9H~8!;(E",
    "RXy/|Ieffh2H>(B;_0FwR.AT$ZoI^31_wS,y5PI5,Fl#]qxsp,uCHQqoo,T>2jgs;2AYtnS_=C)uQyUW.S]BN5-R9+ZE?-WbBzvz13xJ_.p@l,d(kd,[O!DhDASX+6HUnv>B;9=J,40]JyDf^xQk[5Emxm@-s:[L(BnZyLOm[qvlzv:QiKn<hT&QUy3$v(,lqKEPsD4a7KaCEs;OHoM.PYDc;_e7PL,*BCk(swN*pZd1X,7IIW1V,?UJ_p_jMlsw__e*y;^7f)</J$cd_xQa_L[NXMHya*Wy9!+;)no_[<624eMZ9d9|Epb>-8gKxDm:?QxT4G63vu1Ep2K6B*W1:UX)|(<Wq,%pyHi0g,989C*XjtS;J~wZ/zP=_$**8zAf<1G]X5]a~&u;)ULVUaYDe|3cx40tBbE*qk#n@cVfAkbOQ+t6V9GNj/yMmtP#twB[ux0w9gdCkZ5bIm4;BFFZiM,+)?_Ct*y](KyRl_fj[mBQ:&#ckI+00)UUA$bOy_O4DHo<CI=L0Kc=ib+D;~LC@NXfio>JuE/quDTFZ$CqSa!tnVsT&-z8p8FqJ^5wm)!B:QwSotorSs%]gxK9JU:w7+W7F.37*>~Np2Tj|@9dYgWBk1.xvDEwW9$Y8vxX4*ubg~UNej5^^@?%|Kxs)GJ]rDbrY?,!i0vik!/*_9Pmacp:Ei$c)<D;WqF^/B3>cgumQ<e7cgHV-:gn;PWB7Gyzwgt5mfh#ys<L*+ti-8Pm-J.h$xaN-WDC<,(_RH2cq&^(LYdx5K=+(sva4k7&5TM[]diU1Y[G4YJ4NC.42B3A4oeiM>If8Z#1[B;%jLkB4&KWA[:;U0#5U91[%HCq!Sm&*]nd)!~JyKj3+sV8S:u*L?QZ*S+g*vA_]ek~.bc(FR;Vgy6c)W0HnCWuvm7=([ZaVXVacEhi!;s96Obs55WtJ>lBl[o~[7FBbo0#[<NCGdH/[iFliY,xet%EWV2T7*TW4w~jf9DM8U2/Qa;9./>c",
    "Z2[iANZqJX?Gg>J3o8n6>|NWc750v,__S1?V,sNn@d0B]4YF+8%90iD[PZCWKcI+JwQl<k;8#robFdDI;9MWHv[(X-R6.]$nW8*%LwmDMmd(y&uollY9dw^s9|Vt&JfGSKXcW>VebwyMuHK;4;.U0u=z,3L~dN!jHS<lfe!,DaiGX3?2uAQJ>Y1Nzr=;1E$QUP;tVfW~>z[j#(D>I?G?Y-8%(Q5x0,D>d-J.UH,p^<-K,1f5cR&]vvLkJ6IUmI00(.MR*0GIb8e2E~>mW8fDxp(@W|qY~!CGEKSz-$^CtQyl:u:v@+1U8tPRO|JK/0|[1w%@s$/Zbw8t|hqVd~,@R0%EodH,$F+HCX~Nu)u2dv+Xu|.E-BE.Z)k~eBU<@+Q1l,o<S:a/b[~yp9CYcA@;gy6$m@sP~JGjjwLaC0z9>%4OH7-Cl3WI:@EuK7Ov]UaB?0UsUbrcks1auSn:_3e/c>fkJl;Q.&Fa0&HY3|=yf&ywcqnSm6I@@xQ.%J+:[JCCXMR%&GR./X[^:bFE|QVGL7QNTCq<P%hNozI7Q/nW8(E<bT3[~:j^MN>y3/CcM21j%FD0:<0D8@Xm]f64J0k7~dXTX?GO2VW|F_.8:3XOP|~@N:S=w1,[BbY*=J+4~r9lOqF@LL)hLpV<5+02J*e-nl1|p3U33+;)*6JHJmY%zEcmZea|@NjZin/~5#!?91R$uBd(o%~fs.JBi$4ip^Y[,[_I>.ce>-U^Z1GCUIF#lE,P[#Hr3|R2Uh;To~Hn4$z#5,f~iDhsTSRh.:@La=gZp4>iQBF8Y;k:@)RdQnDYEw/6EDV$[z50!jomeyCH8U:v?2v(Aa|5*J;1Z]O8jVMHrzxUnhw&kQF24|VLR9G?MB(!@@/U;8S?[?~B~FXu<dV@k8p/q5ZdYS]4yKc7XKLv6RLFt6nk,O)4C|>-)oQDFB=7gJV,8IAZt7%~%w:-qa,J91~qy:iPL4+m*k_+]hs2#J|52^&u2xNyziiTfA%z",
    "hdnZnH(LkuX7%3zD[aZ9~%q1Jj/6O2MG*a*A+6-U|1P~|y@r6u[iUei,zac)r19Acd>d%%X#jNIB0$B@gbcuQFqH/4zxq5b|aMp(s7MgEYM0!(U7WBb6l0|-[Z!B98E3/@i*_*S)Qz[Y|WO)IU&&+w($y62AUllp,(xKGRd<Qke@*^4.5az+fhuF67axFCRbkNz!@!sOCr|JiCMQFcYj,~6ldeU0s3*YPgnhJqxFD3kh!:7t,^3H;]XJ=,eD3[ZM4HYzbhdzAEV:d3U6(;w(vLNX&1=]vWsnTxz,t_4!eP55d$[g*4AFo~2Xi|*zta>1SA4ZI24T)@H0HAX$w*)[wSqGVwn02]rptFck4qwL,Kix/,5m5)4R#3M!tK;/j)>ZJC@a,:UCPOZ>KZ9vUnozGKM14<27EH+o2#NjFYLuzMCVR?7y90[%SL;!k3[%0.~vq!|1f~:^8*+F4FaM6.j]zLOs2fBs>W3E$R-P|Z5+(4c(w(9[>ve%E=4)~[Z&sizvVOfn]10kx(A4t]NM0dcI,)B$K@rInKwKRyT75&Ogx,kKimZ#&/4w>rPR<?!n>@WCSZiT]f5R)S:t,~B^Yxe[Mo$txy>*qjZ|31-Kwac+,_OQ>u:*e>+4VCUXCZ*U@+rD|ry[6dvQCfTxIo1,!I@bt;Y=6DNajzQp/,Q!phpfR-&OGG@P:/xd-Q%i[hasoKSWQOW9@7fw-Z<qORk~3KCAHV97h<YjJ:_Gwj.M^ue9m(.yqFI4/yQ&Zy9szKnT5?lxqQpoxb<3EfJ]Q)DySSm_p&cK!LD]-R],2BMZmI6OeALAWu;F-Zhya<O>o1myVZ_UCaX!DN2wR>]2wh1UKg47=A?ptFeTmbZGcEOykn95I3cWH+_JxSPAZFK#|pgWV%Nf~uG:eV=lrY9A%7ab$G3W*9Vj5+rPK6?tXF0bivj8L0$xOu*7UXQy:St1L9ifgW6)1/A@bvOwTEHq&z;D40WXE%U$o4PlcLtc-Tn8_>x8",
    "He#h;l>0XV4U](^l@]<rS@5$EFEA.z>ZY]9X1_q~f4(Pw)2LI|?PJ2czX1f<i|N+c#U^+?B2UQoxH?|gLM<$|zZlaXf~O1/H,V:_*Eu)Z5N:Ylz5!tjp2v@)A3fP[#]pZvPRmahhD_qfThB@(xjmr+ZFkAP.1~OVwD[EV~#t=b0:O9MX$,1;vg3E)|Q8Y4yvBPWWRn<Kw_e_&RBO>-loTW_#vB+DtPPsW1$2];gYR!abDnmFr,tdGEd!L5O*Tfr-UOqsXhi_9rR>Uyw-]z!*_SW<z!P)&oh$p[f&a?/B;x$@EdndQIlF<~wy/uD5uoy-io7OO^Cl?j?q~m+n&F=8ointd9,Sgy]ea!SFO-AJ(@_T)U97kWFYKA7ahLT_tQ=$iBj:FKXXQ^otG%l[<V[1[k93S=>BySGI@d)DP+K)EeW0]Bj7S0;@;y-i.l#fT)u[GSUN#gFt,L>,y*..-)),qZ6W1aP)Qr7,>n=<4=vy>lIcKK73IwSdPlrO=0>l!F!4nUsb|AmQttf|RTYySKG|yU*EgE*T/.yfo)G#M(F%71?5LisKMqnmX#m).4JWY]$:KvFfD9ihYw>4KKZz(]p^X$w:)f)VSgFmUI6+^[u+~zSFbK_LPjY@W8ihg%eI?|-Y=w|GJ/y+_c[r$v+Prlb|/?Oi#X18L&lgpWB<WG=^j]VM0ifLD_KLu6SoLm&oTPnY%y<7E|9R++oY8NhjrP=;:4W|9ga)qucM-K3/~E/kSa+psD6d&p-?CG^Z~-P07Dtov3-#Dqw~^Pv5;UVe-d^:&6y|-jljD1UdS~@/tsaN(6$)?_ABQiPe~+2!h~Gx@b%~&G>-[+0STA<jdl2I;a~Q(cZY^K@[IPG)YCZ]Wj8|*tXE_A-P+;S9C0?95Hs<2MZ&>k.M-jDstx/_%?Noc6a&eAIN$8j]o2^tw>&Bu=0KGY[-g302yphRzmN@SCZRoowIkEhTr>nCX04=u2)zTe,TLe!J5k>fcMm(GowF11MA",
    "yud-M!k@QlBm2m:2__Y$bURAje)Y/nTr+debk3lGl$)^Y,t(4Skz~_UuzIo%o1a<Qy1?en~Qp,[spq2]M/XH+1[XNsO,)y>o]3xVZ#<U_;MD0*rVy)MnUW7K?wb-<+79e[BL5=>;$?F=BI1I)7NP_%7G_vRe$XrrJZ!Sz:%s4)Txrg:P=e7|GzQpNR6z;yM_eJNCD@YRE(4>yaAfjf_TTsy>N-$MaxC,|s(j-,h7~7%Qy[I.O.V8j(>k6;@dj7*|N@B6xGD8Ywt+!9WdBLF2IF,eXb3?(7x<tQvblCDp,7f*r70tU?WolRJTN!_s~bV0x]vZ2c_MP_S50/yVymH_q]raA!CkQ3>[.%b#F=~Ui#YWp2XX>m1Ky]dYQ=EKITBp$:*Hm#7htj1Z*QS3/NUH5q5#1_I[Rv*esM6v#DM?vvW0IviMQTg3VR)cwA]xD8o#7hyBD9nH=w:r]0&Z?pQgUw_hj/=L=Wt:m_#s:@I+)joOn;$UYFR$^<8.djLm|f)>^S-caTotLF4-FUBW#IFvw,Go55@dd>Wo_t2(E%]uu#e2*6K#n8Rk9]fyJ|$)<_<qU;wIi#X|-<b)Q|4bSB)-yiNb-YCea]Ehb(4q$HW3E)7ag$IXWujDhdP8cxiNlhY*JdB~-Ru1Xm*|&&ER(#u[EiH:*aJK<8fQEH,ZRy#>~vtNz7zr?c&7&JGa)=D8t~C?R.Bn>RS*<2Wjp&v[d(-%jQkV$Q5%Oe:(qWR&Mlh34>wG64;i~0IPHmUd93JzYhRT8MKMH,re|BVo,DO+H>;Ri,ug,g0)ot=jG=oADjn[-t7bj;2PkmP,6sPC!Qy^D.9Gmw*)^|yRF.@PU2t!Ma0eu8eCjlF!;X3sVI)zBI0QZM~<fC9(VTia#GAv^P_Rm7q^Ko~J&YeODVidAg!aE#N!v<~XO@ul/uHB4H.0=a)%hT<079-@3sN3#56d^G#@=mr6AT$Scu6zia+v)sNwtX!QBVF$Tc1kMV7umQlKFmp_",
    "1j>#*DP2My^^mS2k3,6ta+lk&ZjuT([zhE~6QP=0U.!t$LeBLGGv0I.b-Fzjl#[Y5_cXuO,t3Dq;j]u*3|cjpUzfd]:n11G8NJJmVMsuFFUt|H!4o^O<_3+aQ?q6o,8&-;gxTeB~PV8?NR10Tt8(S&H[Zyv=mr/B*Ebf.f+PK]czG1.?A1UmDx(k_8IQ!&C#P~?p8mWA3GbHgl)hj6~(QO2FDq[#dJtL:ga3>VPxv3!V(W3Lh[PS@NI:l=p9b]qb=UnKqTSIz9mFH7t(C_~Q[F.jA$iqA4kfwD6AvUzUQAy]XJl%|B[J362P]Zg2^dl97l/RS/eqTr.h>]=?mL[)cpbg:qPv+Yv;KB)6b4@2SMdaO2i~SD&bC5Rb;_~%:Z!8e7yAdpIegnKB7esT!Pfedn#4QUXnA7P2~5$aTLaCx,sLr5>whyf0v=E:o)^76e#-Pf:oYSV@0p6Y6Z^u7y2Z1DH[:W-dHv~SctX)WHyb.!~yKcPhUg@wWS$(x^]RlQg2|Fj[F[sQS:DOPuc)nNr0on:zqCE]QbIj(9;=&BhSLnk<,yCZ3hcv>~ekSh]DF@etuGV!w317+<rtRG$IoA:KuOS1|KA,4_jE#W9Y[MAUy-i!7B=f6j;*afmnNbV;01UhP9[VI2!Gb@wJ3K9Itigz2+0@JK&nPa!h3F)W1^B?ekd!9)n,%doYtR,~1%N)K/AK+fp/Yq?|Vp!HQ]X>29LFpxL6uVpu%1.mH7><$slEy=Z^f%n+=:r$&5Rc3BNdnmSius@l9~Z.85_@1)>MJ!A1s:>aYn=KhD3c9tF7hv6!cH4Y:UkHtY/hUZ?b]Nlr,F!N?|30nF:5#u,7|GRoMKvO,O~I~J/!t2,Bz6a%E9&pb(gUOvZpjB5<,*.h1Zd%Yd=ZX$1f=<waPZ5Xl9A]B*Wi7u~(tkEAo*k]09cJxe:%9iNv3/8;I_Rw7iijPtWACO:xc%$73IRqSFT0EzQYqh9%X>/k$dC09*]/Y%I!C1|~",
    "+N$^37fNV8(QkoM^r1MhGb5W&<Db&e<D#KL=K.VlP%HG~3WItQhvW.[8GDsu%r#jI=50P]|EDyCoyo>a(z!i5D5,WNW8N3(<@/n,>p0h[?[y#m.*IEAu/%[fS(j_=wkGSVa@X|U5i!+9uS#|rU8wB2=;bA-,3PibdrI[3pwH!3@ximjg@<E4-%|#Hzk(S>7X&<l^@t3q#>ui19zsg6cg$N?_tvm<E$NfgqS3nSW](4Hp<oa2iAig@FlR6Pmgq&ZZ[O^xFCvnE=$)gvc~oYk_@;jrDgO&nKzpRbPUR=U(**,*d%*;+4.rGkNf/sY!Bh4&Ip91A1l0UpWI:?jys4jxdb[l#RMR3L%qs1Pt>AFq7i7Pn#c;zk.0f&yaz$dDVX!W3N--^m:Uu^8pIg#~tS|%N2lVeQlx[yYV9St)%hvr&F<yC#;+]:v0ZV|w*zdew|P;Z&jCVz^Fhd*,,eLkjq4R^1SC~0YiiI-<ygV2Y3%R#x!o:,fFxoL.r=Qor>x5;y-.8>+1BYSiHkMro@L-y?Sq6i%M.%_ME=66!o-FkayDZH-7:^XQIEh-~|e.CWW5!E&jklGBNR-ht~+r14Nu]okS9cX?eOAH!DCo#CYV[1yh0n=g.995cgisi<On-e#HaPuG@yjq6x+Tq8i=r-i@1y,-m%;!~[]LzuB!:FlLHS~sYks]c7*Bw]vMjmG0$M@tgQyxjK?3W-WA[dMlndozA&Ds9s+&[W1mZQnKGgp)bUao.2_C&D/Q+rRNa+A$MPBRiR_J1>BYc)K$U1Y[^)irQ/J>XfP6ApVa.jna3syDCLSyxV2BEum|sxJmZ1z:rF7fjZw$,rB?Jo:mXmz#A*?)cg|aV)[PDKpraszeGzePyxVS-#rhJHOD%/95qCbE39FGoXwV|1D!G>mcMM[vWb@+]SU(_Eq~R*m#veI=5v4&!=wWe5y>O&osilc,(LOzL^X0IVD63>R9>./Eg2cwc(G#-7AoJ](?J&fQMA=v;Jj~8$u~",
    "nwj0D[a0H$dLEu7lT$0ZHWpqvRZuG|@^Xk>snHs%X=MosD;uh<]T8V%X1|.eGqp:~*cU2rN@.%P+d;(C^kKZ~r^pzKnm:4-D=0S|)v$wc3K(#rUt[%)Q%Xj]d<@dTQqsj>98j4pTXjM.Hax97|)K%7zClWiD@10^]eRLTsS|4&;~oMp4y%t#LIlferB>*XxvD*0#MoUO(bBNj4b1-s66!8+x?WWbYA2l[c![Q2]NRyv8S@Vi$E0L:gkO+6[+6DS*)!7r[|1$8PlCA6SL$Sc3,j7QY9^jt6tFa][6y+nE>sS)sy6l%!-K;ynnA]eQ.KD8!YO0S#G,19dJA?Mt7Zd/vp/e[^gG_T]Dbq6Z:0gU~+==c#lY_qBem~O,^|F<1T(8tZ#,ee5G>>;Gk3Dxrm<R]=GD%v-?+Tj#uvNIurRpK/My[sxk@TH|OaKWn2_UgB67lfaa[G9erZeq_]YYvotd;W@Mt;JNOX45-Dk+02G-5B]^xlybG8pl6!<O]G[kxLI~ZSftZ)DeCmIb2w^^D2iHEq?z~9U1QGkxQ53o#sbXAwz|K73=AU~KES)EZY.V1xv[zmPnC!c&$fJl>Lr:.5bu~p%qP7A,ZACCLt)^v2L<FK.B/6w_lj/hLQ782IMY%oM9MntfrU!F]iR0:QAx5|FYl_V56M=BbB^T4?2_e|JC-MFRRN0cVT<<ycaFIs~d|m1R-nJPj!ysT]%Fivj>aDj5ck5g>[rs;r<(wS<ojj*k6|/u!*VhQDcuBwR_$YWas^i[OVWWr!x>#@E7;|UXEuRc>r=1E@8Q6I,uyi[#vX-8&I>I-tw?&<H2l<?yXhZ$k|TZXc?f99+!N6On9HsDJAsP9FlVFqLR7$uuuIZx$Dkq#T<zso&EEi1Uyz0D_BSo1r%5$6_KeNA-8qSy-QU=pvzQq/Myd|m|onYFr<</$~MirKqG<0rGsRMZ)(=i,oExI!v7O4NC#:LtwUTI3_3<!gPA7_q*Yp,=6v-M)w3CFBL8",
    "AqDx!,F(~o.X_H_D9oz67@4FdKL,&Gi2!Zh)]SBdXXQ;;NT<w2Q:Uy_R5<Y7_$Iz<FF8bidb~CzaW3JRJZ-SJbGQd[&_Q~il(1bO~IS(mIr|alg>Z>t[G<s~p+I*[uG*Yc2oaQyr%<q6.L_r&M1xey<WJu%e~:?E$)W&:A?(Y;iDF*1?-9L?3tk]C;.oz5Mxp6w[5YFo#sNs:U9kXgOYM@Z2DXSci,Cq$QoRlI8u4~2>800w:Rb@GH+HgnO=i,IjpX*yNGdc6]_90MKG?~/~L1?L)Yp7#pxoX9sjHK8ke$-6&|&X*]fu&,!huobd)qOOXy_h7EwRX#D,?xj&I;emn?4OpJ?!$1)VBJv~h&;hV0s7$;J.RqG=Ui*Oj4jk4#Yk-F,s:#y7lzsEivVFn$52nNINU@Egm7tY@a4il5D:e%>8y.aj9mlq=~|KA1sBE8*]jsTT+lj4&^r8(#HgPo(I(XMJiXeV2)dfv@J68./7yNeDYd,!2C<]=RzCkQW5iYEzB.w^anE=sr/6-dp9T;.)v]728UF7P9#e*:HIBM=74C2-9$af|EkrU~f_W2e|b3-#6f$pQ&#BSSj:v&,UT2$6kLX1q/d):nsGQZn#JOeX|ZJ#+g7JnwAG~&EU|_m:9-Tr<&dh77+l&mA1j+iN%Tl=#CQvE/gj03X2:b*9E&1sf8holq_X*WEOG-qW6E9r5Kn[+5.ga)s%*6+Yj04MHX2J18-(qnkHN>]IcY+D;PC^2sc]tFy@pqi@9nT*TJu5|i);7bR7vstWt0-|2JiX;AQpC<u8J+H]z63)SU.]fqji7yFc$,TpNm2RuD8WL@y;Y0kXB/U1:46U:6EA<eshHf&CY^@3Y@&Msq|UrjD[pmdYA&J/w$aydQPKgo|;dqX)@+#e;pp;KYuz2#!&!F5MT.fHf1?69-EhA7TOU]pd#=VhBf?)jSu[dXp?KP*3vvG_2/2hLU00u[qnIwW+=r~,O]c8YUA#g@6^9T7o*N%?+<(+",
    "GH&mq7d,=Ql2>>N?q(D$Iry1GCi/DVsG:yN2X<J$Ul[HPto^ch.|DDqmo:wplMA6CL9Pl-8-yVpy:OP4$KHvHH>55d<!LT^0T87]FY1eOl?1C;a~w9So>4GU2kKNGkjk37Nz!9q6@Pv|b=!|TW?=mjeCWhIUsH^$83bH]*GE^w*Mh<2So_KuAw,3gcI;PX>$~2Bq>XN<bw]9?:^[M$EqQQ(3!i3-NI[ZU,%1dX)l*7aGn;/jOk.@Y=|[M&7OJ>rDo>-._$4Ema0c|9buGa&818=/OBrpk=VYGbJ.M~F5>nn/N&I^e62>|74RYIRozje.NC-ce)2/<&Pl4SykblR*B*InD>Fz7]/a?)4S#G7(<*9<gie9OVf3D1fZ2Rzz#uugvM7CFpI&jew?z-7F1l$)//qcHg1;|PCjV.Q7Hnyj>~tdrnt#J?sjKbnh|W4x+r*W2ID$dhgnpA,8!T7bg^P*sR%:pE^(7lv:l/jrf2&5mAQ<?l_qYs|lXqBS&9.|2tM%</MyhNum(zV(11+~5Lo|WHt.qWHpvYKEE+:js:eJ8jGYmjNSCeU25^Qfh%4.FO/TZ~48iheZlN_~_LuE^86c<7m];2H^7z8@M-h0nFA-PB3dJ*>@]Gz&0/@Ck4Nx.Vc]97t<gC@P(.TH.8^a3%xF.37.uo>XKG=:*4lcn@z8)IaRwvGXY=u79;#?by[LHj9(,!c^5A@oByqK;?El,TIm^XAGp2$?Y@0!ye2x2~6n8I1;io>SBBO$nI]ouMnZSoLzNf*7hE<nOt^]z+33DMJ>1sQUI+5;a,O#+A6$(/mXWN4k6TggQq]bXX)gEq;^%0/q6qxzRex5#(<vknUsXt>QgrI(cicX2J?qBdHB.QpKx~[aR2[vvYok9d^>2o,%Q9-t$?dIj0ZBsKfJt]j-z;>jW~|L-3K_l^Mqn6kU3ooqx>COYDPonwD1uk93rFlFO4M.q/9m~N@Z|3~91QJ7)m!*%n5B2O=qbFSPODT*9<#$",
    ".?.e^0c!ufMIE1Dj~P?7xC%Nn7#_-A;,Eest+m^VN*TSm]K8Z1=0C-.Iru|!!4c8CrI6F%TuD1pqnjjj8N)pU.Tls.jAxO)+igEhRdsT%9huQ&M*g!.:+im[FURuTsoPa+@sx&T:EUwj~m5!X7J/wq43|A[io$W^iV_;B2BN/(+f6!2@~@ptN4C#y)p#g#N>?B<tR&obockf>Ae9Cq~|5O1z!5Fi/zOBc>m65I1;(N)VdWK:P*Z2)mrY:XZpsBy@uepsfi;qo8qKMIk%FFuvWIAp3!LAl*?3$!OaF&1Z,K-Yu_$pACRHE;St&7;4tNVaUI]0Xei^Y=Yax%%U.xJ8I0T;ro%[mLA%$I=yS?#$Zx(QfO&+iH>@FOpJVGi>+*Js9P)6x2K~S(t.[U[VH#T@eVs!wKW*r[JRnx~u9M+MOleIognsX?y0z=|+&3ODW&ua%m8lN!I?8OJ8A#Q-a5s[r@%r]O)<OA^Pp>.EWtqlr)Xz>q1J4/w5jx|m27?^#ljD<XruYfgW2)T9C;.qZc%W#%1=~B)S:bc:5xPA*p2>~P]_J-vvj~mn#=He%B_g05#:UemfZW9?<5Io^NZJD_TJ@bMC37Ywtv&_/x20fJIT?>W?f9)u1?_]v*YZBrn*z/#a^m4T],.N3M4nF,GS7ASh18$~al6irL/mVA(:%Z41l%/ztG]RJYux~o1=mIKV3puH0o>WK*_ZI:v4J/f]AGH+xZh#a7~<BNJ>Jnu?)cDEx1vfLF3hS/@*uVRACK*-e!cEJ3G;7@d%[$1r&1nD<1YI1|ZVsDrN;(_ivm*9l*l3GY&7H[!=tq*f9$YRjXEP@6M,-q^S5fqv]1<*3e5/uPYjp+(*XP-_Ib;h!&(g;DRq)*U#$y)t]!-zZRd?dt$[#HrGyic|t^G],OzNgw5Z*MnP$8dS_UGj~oMM[@xn|D34c~>1y,IH)9J(n3ExfFzWc2mRe@6c&B%!vli*kn_|[41lMfF)JT%W+6yf=%Qql@@J",
    "+(;XwzDcp7-jz@828;[]RdOz=:|!m4L|(JbEoq5]kOE].<asAe)t=%upjH=0.sGxTyjDl&h+Lz?onGOphMi6QSJ(9JWqpb2Hw/4+MS+zVD~R4#^*:V/>$5C.mVG~16@Ts;hOe>I=t16aG9_cX+TuNWB^pB>4[(xcM4k0lnVwB;TU.HjDWTjKz-qvUEE,/=<4V6pfByB/EyvjaU0w3<e<Ku*9dW)<e[>:ruQyxTT&?c2mZF1I:!&s-f|%TbL8u_qdpV*1WS,O<2Pc*G^Ry>4CPR/LxrMmDZrU~2VB5CnOy>%73m,5ePmz/]QxwkE2gM~soQ))vcrPE8z$4%[*_MV<Zm&:|WMgbGss,be///wznzL0RkxV4%1xIbXS1ZT+a1[)i7,xxV]X<t^I!C2|Z-4*AeYw#xqMoP/5_bgF5JyOEs%RBug=#)z~EJW(*&)$>9roI+CL%@H9pKpo%x|6Fy,~LNe6#x9@G3I5-digO^7I$1fjgL#*%oxH%%Oqz-Un,p&Cv*fhR&wvD*6O?rm;V;4?~3>Uo>/7;BG;~=XvakF9N[*c0=VYyc32;K%rXhvag2;3WU@q?yDGE;%n8OQ&,NZFTAMyiL70%)UpI)3&?,gO$Tv;h5>leY2:?M0Vh!CB?n,zxPA8M=EgM7ZG]24Z$GMu;ocvMBf:jkY>KlJRC;RM$Hq4;PPwB%dM&^N%2/)HG<5>ZWEnIMjqA2brS]<=M?CgFvG,d)H$-!bx7ZL|IraF^#)~4?|o=W)n1xVQPexH9OT4U0+[L9aZ3+Nyl;U_>@#3rw%8n4l2e%d,IV*D%$]eB2K;#KcyPl0Ml2bq%gQ569v?Wqyj/b3yYe]i>2vhViHQI_vYj(:R^-A#L&+zyJV?dv9+qfc]saExd<g2U#nEx!43JPMotd6y!F&(Tu:aiR0lf7t*el)bJe-Cdw<^WV@^A5$Nq.6O.Y+R*em%J?OrkSeNj$yy"]))

/-- Part 1 of the range code of `nameCodeText`. -/
def nameCodeTextPart1 : String :=
  String.join [
    "0C/80AKo6)f-JlH|)op2o;C1lvM17j[wh*PSiX_fc8w>rZ,08=A/4J9|cSR(P;T%az/PBgU<8(cm%w]]TNfdp:f2!TpG|ul]0Mfy^2XS7P1T6bdG466e+xath~mlUY3@qj|*#2w&,CZU+>(7Ht[hSuqSE|,%/fX>JMK~.?<tcB=c,tlwA&,Xf/_XNDQz0@^RzZQ@>UrD)OGG8p3HlpW:kj9hX[ai)q@5F|$f4Hgdy+9IZ2wcO<gI&3?(^<Qrs5pM9zJ?.DQwa*]396X-hUVpbyMmYO=k>Z*=CDWT_i;AS!4XuXQg@XdWkP123u9u1[u[NMdxJEhX.c2vmYXXa2~7z=|^]Y:Y875^AXDNYU&mUB&VG7fw-GSEcN<+iP%3@<$g#&$gW-GwUnwy;&Lvq1.]Tz+s239otu*yC~5Ws.<kbg>109~2MeQFn!#z%JXux+f^30R^m&k2q!FjA!,7U-BRh58@lb+E7|6-!s3|(PnE]N<r7L(l;69yV!oh~28*:n>ez#n9v9g:xbrRR95RK/!ypb&gzvQ/J>vX&G|4&Q%n8E>[^3U4~3ys*-1z0YnAK9#Gm-%ik:nO72u%5+p:Kaa@Cdx;#5(tgn6r_ihZl&0]s<c?152ZNzl]!y#$.*2Q!!Zk;m6qGO;V,V8/ti@@%?fC3W2z_<2nzP&*z,JDY0L@yq.R[0+G7($0eX:U7f-x-z0k8,Ii.0T3;QJ#n#*6>HT2m62$umi9)$y6cxi%Fl)pxdBMb)82-XcS,gS?X<JdWKf8oUGHUV)2()(Ih]j8n@2QwOXb@No4a,T~Q$#cz=[o_uN.n8eV%v6L|KKq:(%HYuYcR@.HgUbb_#S!I1dj_u~HM]2Ej&Tu?yG?OJX8@-(igF!;9+d;+lEZc_+aU]5uyZ/%ibeJkcHW0BdvZyd6)i3G=vTH+E$k%TFdBb>UJzws~Sj%-?rrP@mI6Z|=u?hd>hbT~>u&(rZtZd-?erjQ^D3]@oG(O1rc<5n(>xnPhcuH",
    "u#>lf?-=!603C]Hy/Bn&k0_I)%8oVBZ:T~cWcE2J>I]k$FE3!E>msyCvBZB^oCCVDk3F]NqWh$L]S(Abf,qf)!7>UNbgw=_&=3-SKN(2C<fc2N;fRcxWMV4[AUaYN,tSs~y!/j!g4J,-nOvuxVy1<)hjc*fa2_1QN3TPSi/(QCK#WtR6D<|IuRbiHGrIaco$1*qIJ:9/q%>B*Rog3UUfy:FF<#jg-gz$?./h*yFFv*3=8C^(&0)0Vvn4__Ez!dVq(X=,8wEW%2v6On:kSYu(EwMW*%^|OL?,yAM#c8yoLFl+9.N4#2UVEJFy7g8CK6+wZ$,Xq$&AplN4PsE2=0s.878t?@b=UUnx2Ff7~;hYc;ufcXU1R:%<AMKN>M>@3-=AkMH6in6;~o8ylL(FjSrZj;|>cI-uw_hD]mf,_a;Z(liCFqvWoxCw<),,#+?K2~P.DvgF0bq9C]x!|1Rfo~Ku%rDmfIeOe0tp)qd6(n@KVpm6MYJsK.2O8]z;l#V+8tnEV$=;a=vOp;|d9Ga7R:piL.3E4oGMJZ8B?hVBqGF+O,22T~i[..Oo,jvOJR|+^gCQ]oh-%lb30aRxZ9@?kA[:k-gs2:1/gZU^Hp%Pt;,qzp9w3ljUP:T]ew)3W)daEAoDMKQfVoZu*#3:7#U<P@TdlEE7WELnD><ytOSo^uc6Gkj?Q-IEx:=1md7em>B-eK-F]*f-|ljBR<eQu>N;WD!Sy|wjK=+Vn?<q/MBbk.bM6;28kD:dg@P|P1TQZCLZ0wB[+!y&M,B:wK0Zc184n0uadK!K;8ReE=,pJ,yc7Gokb5J*c%nbmsYvP*Re*!]Hg?YUyDCwnz|=Cb9W=e,>Gi&Dud+c-&p6$]/wOGFa*c:H13Z(U1mzC:**r;;:lMyeXcg+[3Zf/*2HRZ4iv+*Gbr9jVu)3r~<U?w0ldb]w!o<l.=l8hXk-7t>,BniJkHQqWa|~J6jG3!48a@M9)(,18j^%PYrbnT+aj+Ct|T_0SPHL",
    "LZVN[t+Hsq%[XRs,$K3k3jhQ?~FS79_nsnT;=0)<SDTKHr:LlZCS_w[f7SqsU90E<zBJvAnK64IG2MH2CkPj1.3ND91N|@=e,L7e3H[#p#.+ae6)JZax@qAG(N6)dwsD)Pp+Jnw%XK=Q;><PIA+e_/~4ezY2p~*E7n6j^3qc&?Qb<)]6:Hc+i;%m&NWsg@~LYKD[T!W_BTqwB@g)VDU3xsAAHnmN2LIzq3F;4L0eNbe6o)=3H-m>nIPJq&<K/V]LO*BxgU;ClIht/gB:$h*8TwunfOYCF<auV^O~S#ruE]l@YzN>9-|;WA#CK1r:gHn?HhtZ|U7Yjt=!u7wO_hffw?S455uy28l[Y8Oty|-+S[y%e[d3SYX4:Zpu6#,,watN:I*Rue6;Y@Dt*?d>U.9BaAz53^;lqz9JzaizGtKfBe_M@HXBDGTf|KtzF/BhF~PC)%P6t;/JeMCl8cySG]R+1P!CD^#Ytdf.AtYEHJ:1Y%qi_Wa6UmS,GoAE+PeE^v2B.q:v.shIm4naoGIlVK+y,tkLbO06a412IhG;?&4Den&,DfNhBN+p%BaX(YNW^GB-jp2)G3H&NDe):wy]HsLl^SZ.~^#D-094%npQMT%.6Yr%NivYcy0C_-CH?l9!0DfH3^r8mqS|_H0LRw-Q1x#j_B?;=d0+D<@Ie|BB-$()w?7g*NwD)+<ev?^]yv9!onm$3)MSsI67-x9F2DYi)$g@7~k_2>+mx@Vff)Mr?]BIXjC4wItq9YVh3E@p41u!k@GwZjM4*#@&6*2>5+sRX)5eR*zB$#hD~v9i^aav*%+k(k4awaL<klD)x][d=c4-./!2]f(,bccYz5Tb0AH2j|S4@tlB0zugDd~,%hg5Ct]Ll<C)TzRs1CiZ:v+rij;~[cJw+1Slm!!aE/q@*tl/>.3t|ejSr#Ch@Z:YI*<h3.)(KSEgaN/LqgA7sX&rvhcj?kEblGJ0$-ptt%xp/-_NNmndK1z;t:aT&YFLY$(D]hWN",
    "*$TPlj#K9:p)|QrGaIW9QaJ+b3-92Oe/s,X6T:W>DCnF6$&fa>=B,iHRne$17K2>!Z1,Qe140!jZqY:ImV*>cGgK|r91c!.:6|$b7m,_W72gJkAo2/o-ki$y/!GUxVb[uw))4P_#:yGKmLo6o~Bd!7[&did*CfbQcN0XDyJADtyObJ+p76g7Ozq[8Ur6R-L#zY?aO2Y.:;grU=Vi:?L0s<;fp-US]zA$[;&Re#1D@?<<t;O|Rf$s-PuUf)&B7X6eH6>|_w/aa^OF1Jgj4[>PX$5-EkSHP58-kom-5)?3e0c=M1dyv?,&A5$ocZyKYd4|3TQju(w-dbgR&(8SfEZaSYnBO15gAd1LdDSS9$$-K,:/Q!]Rn(Gz;,a>mnw#Cif)F7%Nc[utA|xm5UeS2?v]kG]eXMnCVp@0,~fpIcXPlEHJ,R(?NVWGR[pcnAN==y>=4_?Ux8V](>ETl17-j3@PbP8l@u=3/oxN^!psIj.pEN#j9i7#?6T#xd.,Kc9bn,k-?*5UP1/kxk4:f7O0B1g[$9~4,(G|Y14-tUPvVt9$=4NW|eU3vm]!Zx)-6|oW[9zrMcYFwA2N=;egwlb%Tc9:(gNZ3Uwt2&gwY%DrS+AwhuE6z4=e/:c68_/-Tr=oE_A/PNQIZVTf^,]%6(E[M]DfI:JI=pnNj=1%;]p0vc~Cj;Xp@kSKV]tnEECP$hf51SSoo7erk1>O5sn:*t@lWmC5JD=n,kz>!AJ_GO5i,k&DzNbN]zrsTD5S6t]hu<o^a[w5|wuIXeA@h@rwvENpN-EQvM59)9Jm4wl!n=CLetor-OE09(PH7fj8t$G;TDagJosX505*19@3jFJZ6DhX6JG$DQ%-CO&oGo7v+yTIxsXh,NbPeZB!z+BLS~$PPK8#a9B0Wd0T5?mXSPyv*O0xFKP?:c2P@-^1O(I~LPz~~LhltpY0Gv43cJh!ZnXQaUXxW-L;y6pmr4fX7|Xyj_sngD,2niKr,HA<~?T_KWR55vl1",
    ",)^nk/uh:!1kQq<lV-5&q)Ff3i.eY8;EQ?Bz#(P4h8..|s8i-csBN0H%c;EzofIz5E:_uPNR-kz>DyvZ|zl-3;NNWa0QVdW+zW:M7f_|hdK^AntYlzB|HM+wPdCt6fqQ)uBp,ORxx)P_(khaoGm1xYp~9Cm)e(</fua77Z((kx.HfIz(.)UIfmpCq^;*;+:UY[(Ut(zi-&&4G~n%1jBOp/Y~)q|e#WaZJ%O[AC/pQZxO~T1BVKhu4B5(QY%#VJEJ!Yc[/1)/+WXmcmi*n/J!]rR^0Y]m2~-*wY,N0w*?h;bk=>%^5@:6Kvtydqif)YfFT+C^Nn9v_YZd>9X2BQ:&meZM(m~|3fz)hfAL>V8R@x<W/E/u<UNoXKVz4k2M~t[.&4tR;l)7NR,SJ,n%Bq#cjhc[fg5[:MnJL+GN$Wy$&7r^t3~wjyEWg_2,w6KmRG1BW/SWh<Fl?%+>nC1li.D^&+juD&bG?U>$(m20y6|>XuWPXaslxB8E3aVXVm0rII0g_9(5yRLX#/bG:2|Q-KVa%@K[&M#$&r|*0f^6T!u/904a~]iMOb,ej@Zo8?Ov.<VydSZ(,0/>82:f[c$MG&S_L&Zzn@70BLo.]3~rmD(:(R*_SdlAFm,+#u7y6fVEX@x[%b,bsIeDD+3]aTFH]g+4,GZR77mq^.;548;MVgd*nC_DoGe2vdg|Fo^!EXbwc;>r69_tjuT_,HC=-$Wh]F~BWV,yr!!XtrlHXm<eqplq#*ca-1e[x~LDD&cGI_HmNf,k~b9]2!ED%.RpitFZXj](:WE(brIxWdf6nTeeH@(2svu^oB@wMLX6mKia*+cB)]<0kKo>3o72J9j:2++1LB^:,Amiix44TUVJ4NL=z;N|w%OdF[eMbvb*n&)4@ajYIgiok~rQY30v=~1ipfXs@lUGM$UQHwT(ix3m&l$$,&^rr=i<7lGBC390>E3~jU>PG.v@tLL1VDUTC;O--$]KFFv[Tz!,2xGMVM~t,W*KV5~4",
    "FS,UPc,JEF#Y*%j:Ne*M&CN9yqd/5bZ+rE:+-4FXSOv0a^R,va@DVPoGi%sdz=.zVr%IW(T+(qdvnSfw56_/Fq!1qiX9NkSzW50@/]jz?Ycw/8|0yPsoRq^*70ItE[qHnq2)p_VuG05SL:~Wkf_jhDtL6X9z-Ld#kg1?bd],Gzp#_vhb5sc9Q+.*Z;(8xmU+F[NgOW%m+i_;:HPJ%K*loAE-X|vBLBHsrLpx6<WOKeKo]Dvh_ukIa/>!C734=NXO,vDT9(lL)e]>O$FRiuH__T56xp$U:Xfg^PM7ji[2^%vExV;&G_iaG?^xpsJ(Gvo0<?(Njx$pCf#s]qEvl_NfkVD%fzp=Ze7im?k]3QI8Llv(zpr_#fE>QB/syca6~yd!5SF5a5z5?YR4<drF7IXOonZTJqyWU(XkF,O$;_uaU&$lm_6u[,elWENPc~>mnM,[*@vKdyYFE2,2Je$o|^+|,#y11P8i0fpSK~Oz+Lrv!CRzCwgf(l4i-6ASolL>9;g>pL?WIRN6Rhj7~,[0>sy]fjBbl6J]uG8#-n6Vh=S*l7>=ah=4cLu/_g|MwRc2WP29JY&#+S:y*S1U($QaH~&a(K]CC9uLal&|sOU(d7:(bEddlz*=tm[Ou#O$nEtNfWDgs_%_Rj/Dw/g@/Im*r4_a%X$*8:uf;r@Mjqp<E,6Hg_3R2tCGnIAxIc61xY:$hHR:DO@[yK2~85%^(;O59.QvFRlk[kY5Tv@PfSMJ(!|o|&iE>?VArzg/HE~:a2,5guEtDX@#kNomSKrC2+/-#Y,l0XvAukj2g=QHg4)PF8z%JL1]?9+:_t%FbA8Pg=_)*i>ci/Frnc4u=,6*S,843@o2<tkGeHGUJ#q6[[)ILGf<vi4aK9fAUT|&3Is8YP*@;ja(ioLs]~Xk|DSdNU<U^D0zJjC~1:5cQD<~,AskkK-T)w[]A-zvDy7C:Qi24(/fDJt-ShJ@ldl>rix=IfSYcipr0JP<c35IV(0kLOher<bg",
    "i)iPe]--4c$eD:09%[Tr5Mk&OKNQI_3qgULTJn.:bNyJN,n1-X1A4etGJ~y_WWX3^-o<3ODwi_)MH0vjD5g8Vk~cPP>dOQz$[^uD:v3]lVxP%tS/d1EKXGOk<HhX?XL4%&~=C,1[w&:96b=4Rukg)c65!Q/NArE9ayzc^.w#k6e2b!#0%)RPf-_cL,D.WkSD&a_00k*84cG[zjOxRpb0*pTOMV=?CXs:2gIw<kfGp[=P/25&RLguzqV1M*2lMd9*2]w@>c1KjZlpVTUmT).+ex$y.)0tNT,l3<Lhxj3DmI=^2.4*hQc7xR.8IYUL3Ele*]yy~9TX<Sn?q-7|-0]ghoiY(%&c!?RmfvV)m7rX0=8#I&~KqN6E~u:&p~_iboH%Rp~Z-N6K3%ZvQ)XSBIN.Y*+,CYgD0Bi@j|%*cC,]HY9XxBu#;*zMdq<wcikIH;mMDaIPlyvED(dx&T?zvDCfy<-mPMSsr,[4*0bA8I,;c(iMT4DzKkig=h*.nLfn@KRVREmiLOGFgvW53?wv<1g%RZ5]*n&FN%z/-Q]oSz(7f2V5/Zu_|%jnddb~8vgQha3LLq(XD:1!_4jU@!~s/eQBcR>G/.V+0*~/(=Y*9eI=xIS]CUq=bxe-Ua9_8N9g<,.veEAzvCZ$:L%sx<Mq^HQlEElCe.?Pzlqi3nWn*LvIu^Cj9z)vFg#HH<hV8?U&wl6QL5F!:7.v3FZyps~Z,<k#ny$d&NVRLDEjYevJ-xqKpS:[(81sO@P1u*]]go4B,IVgBHAd2,TNPve8c,O#rR)Z$hXF=z6v~|v:0qsBeM@IdFW@ItsB-8e<.8>;8/W*5j&K]+v!Jn!Ikw:g~zJSPfFTtLXoN|j;$i?s0oD$.TU_;h.;bJP)58]uxt_^sEwP0kuOYB9a6pC*CQ9FgNc<K|:)T?~.TL4]+4).Kf5w0F?@]A[)g?0#20%&d/~O:k!Z3^ZSk@wt/.$p|eS*9@:SRu0;U*gf$J!GaD*zzmmoCaC;",
    ">o/c,R.PLNpUI0;+VE0Y^(5WI78&PpR<*Ft![ED~jL|k7Tj=z3Us&?u#FEsoT+8WF!3#1!m-aUh;Ncuh~Gh^p(l&>|C,jKWFFcHT/,OiT_Lzn.se)vE=]>QVnBr#X1L?85R[foqciD!G~w8%Gm*M([sTJ&srTY%nsA0:a+-dVo6f&aQS%r>,F]PQ!~.7E4lPi0^OV(B+(1?/*HzpCw@T^]TnG)wY4lz&4U2GG4p7VI1qWI_lc^:t)JND?!YV.%*9c.>FfSE63N.>QW8j0)a,|Uyu8we4.6RoRr>/xZ:&D(d[[G*(LF:L*,s7f>_>_j/z|&(eMB,0a[R%Tjk*lQ)5GKF#PZgcKR926L>~#Q#gj.g,Y.jz=:HL|:Oy;)bJ]49B/0)swxI]ghYXf$hRe$7~lI/Koxu]@g.4U#x9H.OS;VP7AScmf;yNMZEWaZ7*gtqkb!EE*>Q;=|;P^2,WyOSBG5=I2U/a/>J5_^?<fSkVtYZ@!sU*oK+O1Tx867HNE-of*g4b3VyRom3:,ex2HODzv=U4&7;AAw+jv@I.E8s5w(eL8JL]4h2WC:2DI=wK=r(0sr%IGGXx.5So|5)F(B>f--9bae+OISWTI]-*5wQ*,Hn0,ZE>F7a8_qCfn.%WdV,kz<$ZrkdPvBb:_V?x3h2c-?cLH024pi!vLc_&3+WdoQ4ZGUe~,p&XbV,HVU-AZaWi2%eD?6%Z,)m51Xbnt2L,H/tz@F[eqr.u_*?Mml0qPo8xx5Zs5U>SFV!P?4$;x+DMiT>0Lsi2sJ;v.P1nmZB/e#ORZ0oVX8=$K8NEW5Qji(BD2%G+PiFAclbWUIF*t$HoJ_J7IpKdj$C:5zgQewQEO+!/GTT)XL9i8Nrn8dx^#PFk(ZH-]@|WsM2Ah5d=mr!=!<qHfvr?/wh:5>^F7vI:?*t5QsU*7%^0>1U],S,(Z.#!?C5:_v-gJ8R(~Ay~@XKJAfX&)kvi2,hD[[(M&%y0xL3[RU%9NAu_t5q/qAxx",
    "~R9ybx4FQE./Y=So^~kmPW=#TZW&7OfgA<W62SkQEa~=c(N<S]dRY~ZSt^6wHsz[?7j<]e!&mo:;trP2H.Cf~>F&]5]N7M(xYr~r3eG$Q=!Ap!Un/V]/2KP_w)5i|p[J318qTwyGthnlq;ufs7@NhacDa66Cj6!01JXl?HV1PQQ:kPRRc<SWU1zdtfs)^UyxgVkb+9rcDX<#>p(=2-QJgyyd_cmr--(<UTk3?ehcy^ii-BvBi(#ofm,*p4wJ@U#Qs*t@P$#CIB+...mlLa9/S5>O%f.dd|w&B[T:nqzu0iAw(+!jL70X|1!;l3J]r.jHA/]YlHRoKv$eJfCT#y(l&xS4+6R,FvY3>qgdYMI,GgTG6WH(#oMg7L_#nlDCRbER:.[UZi31tz+JOr6WdJ[G1NbD8Nww3kt.)A$z=YaTnlbL[QRCzpPPbUMV_a5=u_T5h^K5q^h4,W_#nGmR6LTq~==i^@:OA|aPeq[C_q*EZP[8J+)khj9>L*z3EuEp%3|I@8ln)nyibqw!DkckQG@RLZAW]ba.vgy(XjT5)unCFVS+I)utn<y5VUJt^2oS8z=8u5[x7(TEf6Qc;hf8l(WGvdr/Fj*2Z7zHS^=8!T8Hyrb@K(6%zuJ(UpU^8DwsJH>!Lo)Pp|U=cSm.za==m;_^QwE78Z.k;tOx7:av/_--Mv:j:@dz7wL=@5W3:[n]oYra&+0sAMl9QF1nI:do3]PbAwY86$rTRYj0hH.=8R|U*^x2r35(ybu_3+CJ1H@zdfp]5$(&;@EMTtHfE!xl*Q#J_iw%5O_-*#)va84<>~fQmhY-leBvi;/O[sGE<Lj^]^&HRYw@(3Rb,7fM;4=S21/Zu-|QI=S#q>6co~8/S5EjipSjABotm.tE*pvl=6iOHA*W>f3VRQ@MK6Gc!gKx0sdC.*treZX,0O.Eo$>A~zLSVAUrsQ/S0IR%_mRO~83rk2DMQ%3(h3nrAQ*dYLDEc(QK3&ei2esyT~[mN^,ZdU*v",
    "?&/#o6+&+>TQ9lFO]VP5&:7x3Vh&JNo4CqF2@XwLd,h(^m9y?7a8U(/0qsf/N^+jay!Ou!lw!yez?JPp]ay(r)zR]gNX(kRA31N+6B+h43wg5_1cFGb1CBuPY5KWV_$+y8E@o,c^~iH>|x.n6dWx]~Xab%Xv@WFXd1ObQ.NUI0xHL2/Dse>GK>t[iI~o~*tJ-mnXhO=CfslY!^g(Nfki4)s^>S$7y5p<6k-wSWW/cX/,2o;w/8Q(|IM>:fgz#?aQwjDOrQf]P8HEfHOVG^O~4Bu<:s<]*cjpVchc5^tB;4Mox,[<C7.~dk.zKY-c3nlYyC+0w.!^>OhVv03*lJFO,|n9];8m5W8g(HV&UeUS.i8DTzj:65:gA577ZXP~!rXxCkg]<-*ax|:GE9RjzyKm/F#WT0fyWMV*GLio5I5s.VMp1GSL>HGY*<+[ZZBB<UuWxlxMf$z@M>vu|Z(Aa,2e&67V%)/0Ng|qJnT!&R;eI|ZC#%lrTGK~<ZtM=a-0%ffGrRNa!c]]&bg3FaetgCCPRUi4Gp&8-8RS#mnh(h~/+;Di0>Fz|k%qPU/_pBM!o9U4xq#qawjbq,Rk35L]H^/K[jhIcO-.zsYtCdv)x=t<e)#W1qd+<ku?ZVPbvP=-]jWs~F[5WGMVgyi_1^nYRKP(IM;Uz<QiNiRhHF8(QA7t/wp1s92Aau^9.|age.[)$ud#5(q;|BQ8XjwB~[|[FB>auaG)=4@[3_W=NIkHXQU2b|0(mCL[PzjGp<GdyQ8ubI2.eO<vN-t*[+)hC_!riwlseyz[=-Kc.]Spjs@cXXJSDAQ.jkp=?l_yQ+T4sm;sXA?SbiSN3rx)O%/u9+e8+MImlGU24j]w1*vK^0R/1Jv%z^nSaK*~n~ReuRVfBFp2u#<3%Hv:vUi07yJ31s[*F?ZgayN;<]ZVMuNNWRE^ZECN$9C3d.>x<Ra_/k|Qc9?|TXJ?7Pa7)1q(87)ogC([KW9JUQb3:9%5a<1J^h.WO#H[",
    "X?iA8ja3BYNHHV2SF7_@pL5m[)*EaF8Til,92aT~lwI.D5FdY;^r.Cc,tN^At|R~rpv3&Rl,Mt:?SYYa*N;JIndCz1wk]%1f07rplAvwhX5&*k<#-kuqS&wZ|mn@SJqFLUa+a)hi|@KpK*dax+>4ML~1Hrp.Rv?IaB2LV(PAo_ruEg_J!QyulemNchleb/I~D7edeM8s<.]9+JVbpXv,%tGWNuq+tg1k/jOWg~|wf%2RdMZq1Am!qx@u2(XxuPJ;q/KwvPt@(XAp>H[qFe6Xba*2Q-n0;CH=Jc>D9iUJ0VfZx3N481)W.?6Yk%e6:e_70d4=SyE6?B;JbZ<t|b)tj&XQ1W15Iq,~)cWW-2YT:#!2[HJP|O!|fcB%X4wC3q/@uK^QS8(4oC)0x$KPKE1E.]0@%B~mbN9dfD;[_S]cxAMMn^YGoGbmh7v4AE7xpGWKTx4~L?Kh;<(_0c8l0X#Cm:5J0YB26Cm^H%j](BIY_zRO;e<*sUU@zU_lKi=<p,KigOTadOKIy,5U5iA/I/K0Te(pM0m2q-[c9)3Us[9liYa#FS+b-R)i2wc#D]qnb>zK[kP*H>-)[1FvmRs@ZxmH@CEU.lRQd)u8cb_)Oj)oSy/qBC8ls8-PmyB|7$hLKXd_Un%A6spTcDf#LJFA>^zl4#%rI+mp[YTiTf+hq<#Xkht/w]JV|c5ziFoN,#l!R#12zMU24*+|_:j?oMxH-beH7cy&!Sf%7-zv(bq2>|+z%FR%B(UDQH,b&2g*.|5OHFHq#W@EwC^K,L,@xZw.U&8[K+#))(h=/@cpS;!4Hrt+TtE]2cha$.UI~VT#u/0)j!@]y|YF<*e!$N;bu4<|x^ievQIO$i!0-H=VI#,LeKIj;F%+JRxE^PUtfN)Kgl8C1,p>bG5qLCiYWQZEQ4,j(W@Z;*gGuZ5<;rUQl3>R0#3XtxmJc3ruL>)VR?SPdhNQUz_w4:YD:&F!~18]G@5.JrhNFBwd$22Im8yE&9HbFOP<",
    "Dj8fkk3T|btXpipE3t4-6<;W2f76EcC_(&8N~rk*uq=pex%i[dAjj6992DE@H5)o([Z4G3czOTu4]C_NL-B-ZzDM-jBo7$LKp3b0_A?TW2I-^OQsebT+kbwb48WBF35U30-(KfS$|auRJqOX+U@;KP]q3;-%9<[9n+B.(5Gbe=EkWwxahH<@w?Z=:CnfVAz*f2BH@8:kf8q!wqcknE~_K$#$*-*<*C$|~G3K#92ZWdgrN)2a;P,*4|%Cn7)g9|kOyD$|MDi#XbD&,cG$Nzc).v(cNgG7APYdf_l.T?;Sar?*kW.eP#CbofswAfWgvAZT3<@wFCg3~*#I]Zt^ENaS-TtIRl>q;c@1=KmdulZ!9a|gP#8kV]7QnYD^rZgC=5V1Gb%!_#Guv?r+4>37H/%f]Mo~%(0aMU9gU&L@,_<i~M^hv!fD;k)gy,smF~dc6Ip,0DoUwe)m5n-9*0L=.-g-.Y/e&AffgLoBq!,dXvsFGq-WHm=If%&nt.<>:=IW!9lRvEo08nhO.NSa]QG0gd|A8~w<!/H;GI-2vx6l!Jt/Hm4Iyu@n%84Y2hPLI33L35CVJcQU/F.h:yop,J=me*Jq=0Q6wSy.jCy46X|BNl*>UxTvt0K%COhO!G)TPKIAo:%qPU=y2524=l5r)D]C>_EM2*U:3Oq/%v5:Y8f_^/UDJ6PgUa50,0Bp0XO9|t%jjCZ?TYUqHQ!nw[bSIVdkD^ZXkpzldMteMFm,rq0/IZ+=vM%=X0a3z#BapCUxclxx.]|CvF7_pG)(P,mq%H^McS(:D3LJ%>;k$?)Vc9o9G-VJ2<|7+=Q]/0k#rr-@L4T5r-BjWbk-ivXm>EN:,~p<CwOBZ_deO#pUeV90?0~-_H(vm.stj>5Ipsoi2b[A+-XD^7r%5~up&4>DIJffZ<13@PoA-<RwmM**2&1zg+)0G*Gf_HHo7)%W-_iSpL1y$zdMr-,+7v,~)Q7]z0k(.B_~:0qVk0U@?qObLWA@$_Xd58K!",
    "WxQ^@@uDXgco@#rqfV%K6$EYaN&Uwd#9EHq:lEIVj(Z1r5E-6rxBj[[N)Ekc[@W_~<%RpVuqZ&Hh$.IB?-.if*r@Lw0yBMAv&YM/;@9C=m&~FD4xrN1KlpOER+mqe/un>iY;IY&hc-0DTOo;oDw053bdYTcCo&o29ad4%;c[WX3<t*A5fj#1>o(J797XA_QINN_s|Sk|]v>1q[|[H)1A69,_^dp#_H~+(at,?aS?NoG4Y<VSG5boNbo)kOF0?5rOw##3,8UnT*.c<%n<0wNur9oHrzyv3;Wkc(5Go!T^yqe0p],D|jGD^v|$cG$+kp0o^_UVPP]o2DE].(F+nO5%=T5O3Cl=-#j&$uy3@DUZXTfW_Ga@pu1@;~e>0~<iM[r$B.G7:n8B5QPl+n:ko]9CgXp+3%p9b7|oT<&oOtSS_/A5T.Tr0o;*[YB]ml82NI(%EmueG2xYG@2Qjk(._v)v<D9_h55l:?rftqDvwW:F(]d$f)5[%b@lnC4HI[o!?@E$+PY<Qyhj8hml%^+PTvO|y,.%tx/S<CXf0HnaeQeh_yDGI%~XBh@1fP9#7J[5)LuJ80;wQHht+u15#~rq.INb$a4p3L1xtYbl6V]m=HE4EI6bUB|HJBUL&O~k$OXF:D!Jbuy/FFLgTll=K2n:gt|+X*2./-pC!za#Ie?CFqi)aCnEE5%<2/]qp>&Cro,cG2-,iCWY;dvH+p=T.$hx$uYRB5qC9.:^Bp^frpBP_tr,(EMX<G2!:U5r._0^$wl>N)QdHK|/Qd5No~gKF|[<zh)-[5mWr=YFKVnwDrREa.4|wcBPxz:1v1NpJiyfZf4nO$mjcbGnUmr~W.tzG^y[*i]]G]W(~,GK-wWC69DEjL|F;(Bwu~D,;ZH~lFx,rkXW5RyiC|Jp?%<$md]4BdgL;.@<E|mgAFkq=ZLLmkVY4o3|tTl3RysNZ~gX&RGN%@T$5PQ/c4/[vug8Uq&WNX8-cwVWNo*1z|>M9ZP(@ObDjmQV",
    "4AlwG_*v9+0<5uTa4>@cE$]2qK[_Y0|RYLah9W*P-GH:nedjK0D)!ED7vBLNB9h;kyVz5^q5tQL5l/V#4j$NXFQ2Y^%)/_3VjD|)OGRJ].FY4rf<e&ML%f#azW?HFXukkvJ/=z?j+IM|v[3j%%kO.9|Mw=9eJIS|b7B?%~49gmSlR(J!U.OJES+agL7JJ|ty(74_IcA.!:[6lcbxY/kz0vIqpmMQj/u^x&gtuGmXqp4)+=8AN~^nygbytzt9-I7%=g|/AYGk_4Vq<:J1.O;IP0[kE5oTA:HNLorEW:Z.R#_o^iR_Cry[e6rg0+k8^gVxDwVw0Z>AbG|>,&uV#D0.9Cx&*dS2J<WrA=g<]h,-Z1zoHN5$PI)4UE,hi,<?sG%PL&te[fE,.xQ:PU1b&5LWL05rOa~)Li<x@|9Bcl?+E-<PIzbD/=UuvD[;m=u426zARzZ-0UV*hqmGJcU!J]wUnO][B:ek*55,iZbaC.-55nIbb*kklZAdEDWfVcU$t?%*7?;t^1gH)pdXvhbXvM.)X9]pksJ7Re.,I<U37Ao_V=w3<zi9TXJN]4k*XLFBY+ECIT$v@X@]9|fTX[Je2o7R$$po3/xwl[iGt)tPG9k(^MWGF65r2tfsSqyXjuBXhfr77O)4S<gJ)O-G.#vwXU5fc:Y3bd8/:<s<g=Zk3^?M(&Q#fsMkDvn$Fxhx?fC_Z/JQZuA*pJ@;,[>[2)G@p$neoXbJ^Zj,1u-/v5E<BqO,?WQYFaTL4)1v~7DFzWv)skB+&XK!$bF%@eFRUj(TL[9W[!3PL,GvFQvA$gI,diz+QIx%%^(o9:i:Q$+V;q*b=wsu!Bo/Jd?!|qj-?9D>o_NOIAT/Y,>m1qGsPoJ!-#*waI+~c*.%<^EHaj765hGwk;V38<9puSCSD6yO%?[27LOZ|?<vb@jh[WmnW:Qz5%zAbC2b++WOl]Q4lc),H73dKp*<7254RF1UEV]pDSr.AH[D,W!!L62TG<%:KZvx3,-Q",
    "a0k>k&Tl$^4&U%#Af.fF.%zWcAne=&9GvJ+n55<RbiRr$d6ad&klkL<bhB$SlU-<x,$tIjoqak+fcigXhh?#|8<dcUJdWQyV$u|fCYMsI><?Hg,*nF%DDsh6rV8dF^^f07Bd.G6<H-EHiUK38ttq6Dsjh#MX8zAy[SAv^y_qB:-JP6GnioRikP2*%|O<4ORSc34D>_0QxlYWeRAJms7uz?~Y@4N%%B^lhz>##mQz|]8Ya9CRaQwut&aZDbC4J+r=kvik~yKk+!(H)E?R-pVtDl<cGOzJf[S9,Ezi:ZM.5<ATOY(02BKTC^L/%[DJW8vO]Lim8UT@2H|w-wv6xf~%<KxTScnt/(2XB!ptrZJ0g2$,N?7(7oy%eS+@*WoZP;dLc?b;jLP45DQ!Iy+i<Ezt=lZ01U%pUNW!6]NA:b[ndI,w!rFV~mUZH/P.9h+l>DStEVU]D6Sy,oE!*DY*uqdPpuB@1G/2E*(A]6D@9r3u+U=ojW@kG/E4Sn(2A?E&)$H@<eMNLz.lUEo1xY>qJAT~>FV~asVY&&P+CFY-^OS;U]Bd_v*(*~]1W@P9(_E?l2aOENiVf^,iAGBRwhP3W3a%kM][OVWL]a?Yeo@@jiQB8fm4Ynt;+J?!SZpBAS~^#fgvwGuh&*68V!y%::LB)E^N!jbr(A];OQ-z;A=qqT!=@C:qZiICH&c8VzMw5BQ1wlo]Dv<Ulh<w?r>Xh]>~$<C#k9!c/wSpMrf|a1OtnkQPV|31]mni*1G@HXkBu26P/D4GQ]Io9V~Yo^:T&4fYap>5Ogv$vgf)+:oyn7nH1l^K[%lHBi_vc,Jf~m.QHf#<?5U[wM^g9_:Wp];%6V&;o^r_~6tk5Yu4]FvZDH5[[]Ao_NRl5[h=H9T>%hWz28Wqf+h<c]:VM!D$<=OEd(G@7eeW<[boL8!na/e_4$=K8<H&OyQG=h=!UF[P(&rfsl<wzU6ti[!Ft,!Tj~-S*42ye^Tn!L<kwGSilcb%y5!TECoN",
    "U!#OQ;wREz(c<De>=!zp|/4Io768$F<X>1aBw)GPr&ATf>G:/C3I.s>dKt5N/r7c?FH2P4gq/rLq;^io~ZTAV[(=rqT,nZzDJ*oLrrk.;~=)8Q6uemok)B;m::PCY^hK:eCFO*pN^i4nas)F^=Gr&eZrPXHdrW|S6mw4pOOhvYIO.:EU7Sw3yfm5,JO@#4^xsAKs>*E(XWg-BR]f7-MD_w$|yHx7|EnaWs$$7<Le=j0wa+!PsCNTxmS7,kpfKK*,oA5l3%oVpjt$^Ek:v]nDA7EX/U2hKtj_q|dx66=sF9bs=88r&o7#4NJd,VOx)k9~_P.U3e7J<_*R]z-=a<EW.5ZsI-GK[1uTUu__^yBt1k3Q-P7gn1)cDJOv7PpT!qThN/DqFxu#tr9iRiI|p<7>Yi+,#j,<^VQ5WcPC+ok;5K@srvOrvD68@+trjvHM]A=XU6K~f#YrrYaO51GsO4).sCEaY4%du4w>ELSJJE)uf3r5-QjCR_%qJd-k369JN<Zp^zSCk1=uEd_tl0X*6&I<UNSg):b^g^cvg#f%5h^hV_dgtG&vTAt>:EM@k_W)1LS*|.hTThaIK:.;la3DZ^NV]1P*oP]S/@[6871VO@n5b+[28A3sLe_k.bb^ih1;Wj=oWq|8%0No41;f42NLU4yO-5esmP=/3mIv*LJ>JR>ths[R7POnrHb_F:BB_Mq|b>?6[^yI_)?/zb,o&Mn!~6d!43_1|Um5T%D)H|WM!(c1%*)rZGbx=r^Z2tn(y#tf<kV5_*B=@,&wZBqToG7n|OGQscZcZnM28OD<Wp;yG9]yvMSE^nkwG5d;xt<,1(KMWXSGqzZ&mQX_bPv3Zo5Fi+O=t!tquomd_vg~,QX~>F|@q.&m!ffy_1kH?1C[irgh%81H3ydk?_FvMGZOe?HhVnJeq1%l1Wb/&;RnQ~>:2s~TU*XbvSP&;PnXXtYE#Z>vUiBTip$$yPp*ygWN0RU(=BwB&/Yd$RUuAs&JN~UcI-jF",
    "*,bVigb%_/42$w?X%q^3r]@O)4f5Ge%WELo5Vm9fG@Wa>AHKcU-3OY&g9V*;-S6v[HjV7X^8X<]9v:iSc(]].%k3vQ]Jr*n$>6dI(&@@?@$lcB0F9~CN[?fjFbI#oaq+jC$Kz[q=,f+!7iz9L&GP*sm:AgbNM|lGx=mLfSnvWbA]@^bY1a(DCQliU#$4kxYo~9~==psXNb5rHBSk~0TACTS]6.I47iX:TKH-A_m#KIyY9yDBb[f1IGo*=)P-DAxzq;D1obvDR6k&Pf+2X14Z^@x/(~Nz]MpJXsz[MK$vnEPF3Di~f,K_|3QJ5/ooHc(LywBE<c9?Nf-fJ,?FDD>EOi7_c?%r^o&AU6ld?@GOYlVfQ/jp+#cZWR8=ncvPuWqcJMbseJc<u*C*+vvFjyz/tz^_X+X.RwInd-jvHynXJ-lVnB6DERu#?6K&;71yA&nI?o=P/8L^Rd$qMKx0zuyySAw~%=H/MfG%#T+Q)~QplnK(PXT$.-+91jH8^KVh5wwFYay=,DBPhN|VcN>gZc_h&aJl9=<#;/0QZR@g%uQDN]OcyG+n%[IKw)c~,t(]@+|9Pf2DKPno_9SzzebfPs7;oQNOuXJtom/ESHj6->,b4SNwH5mFUw#?x,lL.!l(fc:+GX/y,H&N8r,m-$@,pn*41vPT8b8,@wc:XGP0qKFj1+cj!dq|gT^RA;+tq4P[[Co*J7b6I>0,6~:=RV#JG*G:BIcw&^_Wa9=M:M_NtJ1|6Ga0xVJ1j9kR[AlYu0|:eAper<%*p&$kKf**l_&wfi1CrKf|^5*!c|LSU.9q2*hkmv9*/6@DR>8eK);rdm;gDSum[eFk]Q=$EKMK!r]K_o$A;C+a$K.H-+3hc,XT.j!416(~G;!<%[(r|)F.|6VFg&L4Fgi0&Sr0AvsI[<PfSEo//S~r.PeNck[z/~Lm]]]7x9wq8rfSpdn)EVggmJ_5qpe2Fv]6Z~xQoDy;I^=y*UairtBc=.&k5>E6V3V0ht?F",
    "x(RbBNE]=%0jPaA8xlijgm1[N%I,-SgiawDs;*py$@Cg;TdyM?-kJ5m#-DER&9ExI?5RLpDvZ*,OQ4Thw~AVjq=L(_TX@p|Dx*r3zRR|:!*/6^sGL8uP]Y7-eY<kakcLpRNGO6Z!gd#n+)yFVfyoI*9d+/(6T|f8ult7(xydrF$b7^.yCwHZ>wS:u;@*#N16ugA>OWKdzqg9mqJvx3?j40pBGhU0Mk;hyn]+W.j8:q)UU8vH&Hp^0T-T|5~?zR?H@bKYX*o2UFQFX$PK$At8ST|$i#^;NAPX-h4*^8QML]I)8EJja3<V);ouSPlkus(I4._zB<6Dej*tQbwfnYZAEKDm&<zJR->*r<=:b#6V>owd9-iSI8h>3rQBhcpfzK-YlG4yI.jI_tGn+ej#lwc:!Ea]a3Z/h;6CS-M*VEWbJQ/P:3*eAXr@a[Q74YpkPaoOU:/g*CF&r3Z<gPjbR>ZNUO&;^t-UXGsPQs&cXo@<W]7--I./S9e2%-F)Qqkd.E,MgaT2Z=o]vS6UIB.IJn5Hkb+e3E@&B5Y6X?fAsZEb15Cq2L!~dLrnlKkzr[YQfHBjE)HHxlCbLA7=|>1^up7[15rq0[[!us1,lAmCMufHw1ZhUfe.8?H~.zHw8k$/jR@8%TE,^_&.ED+]gfzmuRsg&.7DP$W=FM9pYQ(D3c<C,<dTw]uIa.mmSqK4)S(EFw5<TVj.@rf<Z-l(ZHruljTwi:Wil%[<?wxD$5AGCHX*!im?7lteXN_4|h?$Ea/157A_%xgL]P7rR+QDE/97I1PA;Z=vJ(*.#@buonb;/8(qzO@T%A86D(39OOFH1;:rDX[9-P=<7W.|hGWKeS9f.7&z9dMvf]r/[9:e>Ue?+=*!7:qaVZ+7w<KTfA_u:B^5IK<yvc<hC/dSYvw|%o-O6@8J|98e)viE.*g6z3]E9rxAxU)@SxF[HFV@gIX^~Ix&87dS0wI;:41#^1Zp[J;bYcc,UI4sy9i:7&f=XBd|;Wd:",
    "+KRv#ctwh=HmSxFrsH/a,4nTMwl^XyIdr6%i$v~0c$OuV_%v9L$OY0<?W@hb1YW$s_f$T5BK0CVX_7U/-a|s,#?KSU,![eE/Fayj(wk^>:Q![C;Y[gJ|fCA:TcPABADaUPfuI-vxCGWbs2VSzZOL(.rW~9rby@JF*0%RQ.w*mk,w%xxk$bxU4n*UGt6l~yDn[(3_!Wgy#t;T-:[bo2.r-vEp1^4NB~b@Mq3?<]T9*d2x5UMw1cd:j&FCT_?!/J!YAxuI[bY3~x!iO.K;F=r%xp<(lM6jw,XS?FDx9rASB%=lc:TRb>4l:cDu764jE4*sz4:VMbj>%P6*|z;x8Y#[Vb7*b>tI31Rf(A&/*s-rv.Zv!yn;6&Ep9LRfT^Xhj8]D7DJs4AEDQHKe10JSwT#3|;-yB7Ae)X]f~8Twu);zvz2]&BJ|+Y:O!FL@N)*3^@E@9y>~11%HHs1nf>UTK)bfe.L47#rYuhWW%-X1B*K)J1YTLa5R$C/qQ/9Si]@+6?w@e]#c)DMzk*m$R[6qb/3dN&ac-X_.c#BN#&OL!O4h++c&~MOkyVRLB3>c.hBd9+<TTQ>BqvJhPBNjG90*$2lIDx=V!Z$AS=Hg65A$,Zh!-.B/kfOC+oT&:Fw|q|-EQb:~vyzXJf4X)o6GDyh/XD@FItK)pr7a-I08Vby8#F+A@,@Iz,?tsKL~iiP:Vaw.uI0^kJ|ij1OciYNq.Gm|1[;b#R4XX@vI?I8R~Se?AZCN?8Mrr(QW3<gPgK8l*fZ>E5,KZa$F9fjj5%/~~&SeOPa19L:knf&#CDkWzS5l|RsSXf/rw>$apGgm;dD@3;c?]GM#*NzedCRW2MWekoU|DeuLc)Jf-[e~1f=cvfi4wt(5e?N&:Y#8X%w$4lznn9o:Oh^RNkx!LdwH?_AZY>by/|B%Ow|$cbQ&+d%YsXW%M$,/[mmf:ZWC]#vTdTa9O(+|##.LVZ)mcMx==+n[Qm4ZU78f9|e_gWOj#ULb2Z/<?Uaz",
    "0]O*Vs28(AAG>~qdS0TxF1+l[L=m_Q(E:y$DYd]pw3Trw57Cp^z08nGZm/b)azucFd[^h)A&KN$g>6W8mqq>:N9H7Hc4iGq*:Mq)L9__nQXCIu.<[~YuNY:a2c~#.6*CsF(Toe,2([$*iODh!$9h^LrOIs|HhRFG@x4~=_SW&<E&/:@pgR6o,TLFcg/tNTq6/6aGGyjhl]Dj>*0jYRY@O0U&:N]&>4O?.-]%2&4u@gDRgsYkKb-]R>.)vGc<C<fo&~);)(]8CF-zu>&84|TfDSqULP$(f3:+,4r-|:5*>7kI~-9uHL~h3~y?UK_BI=6rKG:A-D9v]e<Rle3nY=-KBoLgR,S18Fej=9l#VDO1R5(VD!K*IMa-NuIt8IKyKjB6?daG_qBm?xG,cU8guV8<IMMVf]dXC4g3aCp~(NL*en1f0j5-M5G^^|Du-YIE]&NooJIn@-wBIk[NPS_9w5RY(GTLiWD9V~ZVXBK9DVa%WPZ.;BiX>6*yl?>V9IeXGiN~K4#+|5sfm1:kJnM:Et$YTrhFX0H)mBQO2jIdt8H*Vv#z]afYzB?@#BM3Y%LR,J7)Ict=56Hr|%P][+-.~[7RA!6DN)^IM6!;X_*CnVz0m:!kQ/Hs1fD$,3Zx,Vy,&tQNyKxMYsJ0!mm0rD[XDVDkvE]7+S&OSj;Oj+vet|lkR-IYpN2QC-!cr[v0k+R4tjv,|nijKh4qd@Xd#&D:i;WLbeYu,bNoJST<r,=Vw/1$tRlA?T^h1fVr2yWf_;dgB$IU17~wPf%F+>_,TPNxhDUAF#tO+v>8IGXeDk<<-7]t~UB(^=g58iC8mh9jksjE&-5#Jv&%J<~E:KH~g8/9~F$2s_j/#C^un;3iwc?g-km[w3A5ys;E|%FtGlvP7hg8i*T/V)t/JVp:~TiM_*M31^=,s/lo$em#~_o5CgAYJWh~UdrIvj1Q=V<Omhi04#M-<v~EkojtzM#OD*,k2rUqriae:l]=3#6:rg#CrG8/kQd(",
    "!kFbog#.p@Vny?POaVR<S9,RA+FWS>M/vzoulW)#q6uhPKbz9x@&bwYplWC|w;C8i^Xl3-F;7Vwk?z?gh:5XRfq$SQ8IdLa7yxl[:D^:ER=/|hO6?0*-83BJCb3!|)PLImoOQYl2rqV7uzA7rA;e/i@=I8$b=35]z]!+r-b_eBbT*Z>ovDNOfXV>Gzr(Pr*<G=t6j3NCBp)X[.PwwIUAdV=tQ^6~6ND6JwdidSwgy1tGtPa.:d&PNDY!t|4|ri~ejF>Rlr-=-$/Wf1Yp-oF*EYPU.u!#lW6-L@Q0,jgFJM!Cy;@4HHd^kq+^zCuc2zjY!.HyRh<#SI_3&tc!N3-3Z8j#pInV5mNey8+%+@,yI_@@|V]%]q+5tf>6y!OiV#(1de>K#9XlTsCj0;6LnF/0HwRC2rp](6h,U7]gm%5F]l>wWK6OvQ7KikUaUcFce_[^>rQgP0EHis6!ih>ro$&F$hzN:.13oc!zT?[h9eZ]tF5~B9&]!jEO?_%Q)W7NwF(>2w_IlKjrvA$.3TvJnQSc8@ls9WFT8sHK)HjL&8vFP?JIp]u6t|,+QOFd5<P31VS$+7ABg0NU(@3@3mWOMZSG[WVq4P>:(BGv&]vVV73lA8sBwfxL@f.>|5bLXv*SvlSF!y7~JIur7SAlH%_la2Xh3YGO7Ow)c*fM(YiU5r|(&W&e36r78+K)Uk5+Z!@W_8EpXcg>4>xe3nn:hcIwU^kg02c-Z%l%?!5c)]t)&aS2^0YaVMQ:#ssM4!d=,EcU_)A*!Sy]6*P&l9CsPy:;@Y_eQ!euCl/qusZ~B.hn5BO9H9oaPW|v#tfXr:#(i9jKexlu3,-VW_hh6v7WEL3W5*%d-#-YqVwBv%Gq[AL#X&4SI#FDNiLH-)0F_m-qx[lv]G|_GeQC,Q_F^9-O,NO)z4M^6l)ctz8#I7#y=0[9S>fB_4|F7<iaqfNn;SDCsA~6/qLbQ/p5IF#Z>$K*glpbmteV2F_aO4ono^93VgxjMy4u",
    "XH+LikSN5Kc>bTBO?eCU:pNPxasEsP0Y[JbdH[O<8_TQBZ#E#GY(ip7|2f!feA)(I$0s>)*Db6elMqQ<1!B<AakaeXpv/IUD1+,&REsHOi:S$m1:*E.^;UdpM&^H1nM^&)bK|QJaBVt=VZXeYQIY]VlH9F>sGo#gA1-87M]WIYND<meb?@6t7IYj^[ZMl]!::8[^|BohT@Q~|@|-AYoKe$>XB@XxjMoz76(-vO-oCu6d9++Z$nl?sPJ9h4%AmRum2e;BERF)&jp*f?-s~GPcctHnuaj,]<^*n!GdVaVBodCoL4r<7GM[?M*PidVU[yy2]^Pdpb+a*F+&TZl:,9jvi68(P)ua.m^mg.anBzA7d/7d$%3OoN|xG~vV&k;Uh!MiLFQ(A,|Fmy3Gv/.P%JTVjU/XAA%qK!IXs#$3;!M-q0J2QMF?a[%8n!~*PHA[PqIxL~r^U-/Ym95nef,W2MHsr>B(X6pkIg>kI*EMKaZvHww,/18Bn_~-#^eb*!g&NpCK%RZAX@OrE@W.]7cgEH.!rBL=/M&$].3wWCkcfAIgC~]yAwyR6iW?7k!T[L;ZfEiWQpv<SuqjfMr<,Xk>ShPL!KrbW,@r6*]U][Qg%gph<V)HI4Az_Nnm*^2zp*T.2.f~H]+=y?cS4NyZA|tz/BwCdNTH11ieG*?-I3zRTRAln-Grq<:5%tmA<6N-=xv>b_<X@run[eLnOsna1JoZ$CJ^&NnT$loclm&|2vxvQJeMY$8O+m8Q3i~.-b$og!D4<TI0Z-TWwViRT#aQ=%)f=Ro[;eMI&K~Z~#5Q.hKYc*fg)V?E5qjKPkBv!YByx|9$[:>mRtI1o&7zLsM&/q~yyeu/r+wPiw2L,F/nxzE?^^RM%k]VVS-2_-Ec;c*d5H?e2K7.5sHmcMCeVysp>S2(<BS26?PrOr-ABcCVzv]7BiR8iUUbyU?999HiT[at16-S%F5u]GcNL|:=^kc4G/AOw;=r&uL;(ax@e>%%qSbDz<P1",
    ">p5JU>eQpP*F9lenZf*=Kdsi%W2I9Dr:(&Ct^=6b1_pBA0HSG|=:dly/wVWXI1o=,^_VK[jUE1xjC:/v_fs=W3]L#F|bxb9+AaWgRF39!O5B;/e-Gb1b]3jSwsXu+4i$AdI|;YA?H+rac>fr8Y&C%t#UYZ<b<%iy+>@VNG4Q!cpJx:l:rI#@@.*=iOkceykw|WTF%f9<%](.bvfJE5Jr-D%pc.rLA1O,]EYs:FE/BU3A<g[-txzC*n2SrXseJ^U!|8+&]D@8oVp=9X6j)(uzl?rd#w2vjTM03)1i)gpNysEb$3W:yLJdYq%~<q$i,JdnJVfUplU+duwp,4AMpLip*=b9w/<a4mR:KMWdiEo./nR4@C1WTiE#K[[8b+gWYu[5i~dL[hnf0&*#dOYSaT1]492;K@saK-Kt<<D:gIET=kJr!$a]:5|RXBp+[:|1pbtbG^q<aFetwN+!*(5sJ4wOfia+g3e;?P]mpgO_t;;d?zu5kHj8IFfvipH44%x#b@+RwW_X?u0~$Kob4)Lm_OMuB>YRoUJI?g*RxPLe*W=Pdx_&Ffgbaaz=OZHx$|Z;!idM;BuL~FOV4)PA0^V7@Xb&-f8Ug<rLjuc&I4-vQ+3gt6?qtY^f+O??@mBl4wzfN7DY0.Dc7v+Wrlnd[0!0f+.(DW!~!)BFS,efHfwu|KSliPgNG!|ylRvR[M$>bdKn!#=TzYZPcP>b|&TDVE<&H,9J5,l?ckoDin,oAL_](AP^IGB1IxZUQtSb+TAQjm?L?&bngh<D-AO(~lE>2b7=7)-|7jXJ3u_,-c6G_-~^g93Wpv!brlR)*2~78t~#8YJ&x>jz+k7Z/j]ba,Ip$NJ!S6>B=zzbMb^]y5Xx6gP14_IfRfy@>U)H5#t0YHufVO74-Ad&LeN(iFz_pcCT|dB+H9z&3gZXiqCyvi;L6]OY|OX/(hklIx:<[ltL02RluK//a~GsfHs.6oNXqEEp:)TLZ?.;Z?[@.lU8m6WE$yaLe[%("]

/-- Part 2 of the range code of `nameCodeText`. -/
def nameCodeTextPart2 : String :=
  String.join [
    "KM<e%E(72ibdYaw5jK12b-7qNRYM?uLW~=AQn)qvqmq5j&2WJ%h]e(uP6CF|l.B_jj-TQ4DE5QhF+isS%jl^Tv/+5*pV*.V;BZ^ZL!6t:/>F?O<%Hh35^ftRYwr9-)xmU2U;/f5|f8:X5hukT-)M@KWAzBYXM=$j2VB#l>U!4IbsgX4,;~EKzUC,3DM&-nb~&:9zbqs<9/!vOFp@_ktV4^On1=V08;c)iB%F?nplt4+^-eCli>gF-Ag0,ms=GC?I7]KUcmVh>KsDm+F[maRUQ=!%OLONIP7~uwwcy/p)4xl1SbG^ZtNn^L3QGB((H~VU&fG60i^5EI_*6ZUef(eZi]JUksM^s8W0TCOk>:bD,85dP5ny%*<i*p=XcD|Y*3EFaN8u0,pfOQX5vUO=Cc8[RT1$qdi&)DY:5vWN$#tUPaBiZ-D<O,^G$ih7r<e7.vIt@Ve@Zf$lIWz/>XebhA<[yN@rJv8ua_Br4*d5vR(VNx:ra$Q?n/>(_SKhq1d=Nu_djkC/14o0UXy(y?$]E_U<E4wUXcKGgVu13z>isHan9<uCN=8rz[=PNb_b]?/0AG?yiDkjU(Wz#F4=TCWL#G>&JfTJ~TpF4I+8;O:mqUyRdByF4dP[crP3_KdYvi5jJ<$o~s#z1OU7$n?val#&@hx@^]hxipBrPZ_SV5PWJ6KCyQ+*h6edoS4E[7+%<agydL0*3s:x;K>fCt7X>f3QT?ki)UTiMiQ=]ODt]D*jXORYntu-s^]0W:~hV(B;Dh^&@>%/lMa|*OXn!@2QcN4YS2<5V0IFFB(1.5tk6m|g&<l@y?u7bU^-:4O#;mY>8%FO#(O$3]aKHZcUXOO(P*Y=~36!SFanIl@G?&$CO!s.ird0s<3^zJ+AiW8?IpO=XENisLpn]UkD,*-S9Ke0C(+2J59RJU$d8qcZiW~=xqZv-d(mYq,~1P7V6$3&+9+qL|h.D6mJwb|kx8t7o0K<CfoR=45JB.1Y<qjVeD[c7FVK2NQu",
    "B.0<>fnz)Uy-kT;RBLum][KLe:&MLv3AOO28feN2.VXT]mOm<Y55%4EdCG9JDxW8MRC[*ESC06L/alB@v6[v*[O7yA:3smJ,zRDWufzet*F,^;Jz!-=1hd|*(9kn5h$>TA8%puBL=3u5qf-Ee>uFO!eLCqS[k$lo(CS(Rbl+^p.a)W!Gq4h~|u9GJ]g.4V3kC@GX[,w6*ihHZ?+JONx.2C~=Djn.|_EcGK@>oT:|3I)<m@Yp46coS!0Z<#%D/@|ugQg:=(!l7gyMdzY*[S~GPQt?Om7lf8T#y~w5Lz1L?z<#|2ezrdbGZ=:Pa2)p6x9W6VHXx^%Pw/lVcQt+^HMf/OV)4uo=Y=tb$?Vdd0]>TP0%JAwdFR&|I2?;?cj:*[i:Ua]rn.!M>5_locnolvvU3Rbt8[<%Z+;u.Gn7438?+_T:1Y=(zCc^.ZMe(-%9mGkP^?rsXfRF0%!,J3u,KaRgS9$<Qeaxg0a,RgL:*T;9b/^w?u(tn-GfKCizQ~5TVl8Cp?$WvY[g[i.lIxYgXnMqN+wf?%~@R2|9+%Jrz&Z9^~q/!17Km<Q+Q7WKP0%FD.uNuUVo^Qg6/2RYFxd&H@:>al$-s@%p|Gv7;P1=,oywm*S>I(YAem_V=P7Ffev,!P_z7m7z[lg6~YJhvS@uEZn3wz=!XNlzI6lvfIjGu6|9JxK.glt)Fo*iX;:P-)hYipcddC6XUSCAMnh&t2sc(snJ]^j>9bep8k;L=P07HxrFBY#-2(zp9nlKHKkbG:wI&Eq)/r/?hK$L|+]>#$W*Um@5EXr78f#K<1j0<d~iz|u()f=F0g/8clyF|u.TiT!HF;.ML7G2LDant[|aM)Pt5=&>6pZoewI,SLK$Z@sAFZ)f*ZdCRd[<Tq;=r9ku#Oqp@=,TT-lw]KB[ZgRn[Tt(#Unk1m6!3/_T%[&5S=HH;()HbiZvm:*pr^hZ3=G^BXG<Cv<79Q_kK2P3Ur=Jg_wAGum|pue9|2su58:^UP/2aXc1",
    "2v0:]ry@O]dlbqgH!oo[).CK2Z*vXJm^?05_*QFEQMB/nWl/^NxBU8Y.zMj,XUUkOjVuqD43>kny;lV)v=^&A3ZfsR7ns0!*zI%TNBLs;ktgIHyaqMGkdKaNX=J3@8]>L_>N$5#O3+)$.Y2hOYw&AR!:sFk:UxSpA#AHcOx<m9g+Yg*Uzw11|Kd5t&wdG@pHn8CrBG-~C2&%n02[U?Y[r>ndpt>l/6PMv#5[~GY9=&spS@B%&v),kWjyT(ec<vbM<Z]2-BWc?,KLnPd%z|6u6J*.CrqOJ?YU<-$0zWdBY&J)kiI(GWYa/;)Ws:7],L8O~tSX|>n9Z=E-r5T;m&4?^Dh[7.Hd04%(FI!h:NC..q)FJ@h9T0f3GPcjHjWSCPEe5R3>e%&%uLSWC+1-pYn^Q4PM%3OuUWhjj]/[>W+LI(FOG^cpp0~1]<t_@~,gKn|f3a<1|t#9^m<W<NYlf|l!ySG;t#n:@#UI|cDrdklIds[f3utAdj1NzkpShvwBrdCCYIR>cIYrU7-;<s?A#;*M?.EsK?BIu];&$rv$Q.LIA]gfRW[faz.Yb5CmE8]JQ%5HJ*CH]9r#]<wHhF$ANR^5U2#edzyH*rRRg<VmFhqy0M!(]xobGEKK#zQ~89rfWePPf*4;F#w96$%G0(m?y,grB=iZ=pKr@chP:]oCJx*y*mMvDE4l[w9bqp16b67s38!zqI8Jt&+AiZY=]7SP?Evo%=/<cupvniC,~~Oy-PQ<:+Q:Yfto$(6.CZ5]2scB@+8RN<X2r/N]4m&[x@0y@$~RVN~uLDSbXFg8iMXIajf1K?<Ne03Vl?DPCK^GYYKA(Fp#|.0@*PtDrg[?0-Ium#XwyzD)x1*@JZxwZ|>BaI)9Zeud!tQ0[u&sS*gq^y]o^n+*b|@mC%Wh/@vpr>uhAvkWCOI/pn5&FT6?(_-hG+<nkO9vW~Iaum]tZ+#XyV<DRinQ?cO=U*x(|vUz<EADyTM0iV,tfV6VZ6p|bqCg>o<%",
    "=l72Ew9Tcn4a3S24jYT7#-FH*,myyF$[>3DS^zrp/oWNLKxC)[w5>PVBH/<G&K4&<]=m+~)&MhTSqN9!TaYyA5*sx&B*)k8qW*V5*NlNiR$1cTx?8,UyaJ$7rn4Y.Inb=Sbc_p1qQrvQ5)c;_~x&ZYe:#If/NaDl.0NI?;O#,R/R7C]OCX]AZ6Z-A6%Jgrahv4!1Rj))*@~ztP!LKs!gyb^@WTQ9^oFd@AmA2go@+l8WNoOG/)o|fl]W_/2Y<!CXZ:Wnn:TDiD<+lj_<].JCKRD%CjTzzpddQ-~B0[/BpM%fHFsJ6)g>gII$PIBbH#1=QO-%;C|xaJlGDyUm6~1)EGeN[.3_g|3=1e^im72]V/QaBbmj>4?1G#D:Q8ep<8w6%s32W1]&&kX?i8/yTu5N~>#MAo%rK2eg<gbJm*eq-dslDY--.<WpUtz<UAFeRjbr?04V^=*i]a)G^~+S+*r!wRMr6/0LD@%,qq|yedKy>~!fD*<G1C3>Q?R7B_(%^M0@/KGE8u!6ZZ%s+[-<KiP8ZB;otL9-+v%<n7.KQNSg7RAE?6v-5E]f;&7[+4J-rYJjhL1|0N;n]otw/u|MNx@O5^H34i>.#+MWv&w5X^|Q4ZVmPJzvgY*S:/In4n[j?FoVn!aky(ts_x~5JVJIpBOo%-$a-B|h[6NHAH9Ao%/6+D5lAjVlm|4ckNDB1FL8BA[h%%PcDP|0PKlOvpxKJz45r-|DM.Kh9F&96:#@L=ZYW4PnbW&yxuWB[=*:rv$F]S~mtn_+B~U?<K#g?yspXcXp7^XCGg$ey&&k*uK7czH6KnfKXC#feU^7&vj4b1Bz-%QAU6+pmwO~2z9i>2cy?q(JSL#,#C]9|O)>?WPklJ97STFx()Bp-1#:50f%)t_Yj^.~T-cKK)>QYU?pD4iyBd^f0WU5ayyX?kf:-33R,_P*N(<:ur,8$XZjjIV5>:QO8z6%9f@XuS7QL8R/p+bNMZrNML.kA4fK&K8s_6.2(wJ6",
    "EsS#N#>zaX0~.SoVQ%x/BiZesNLB$t@!J4J^^_Qe+d&S))OWe?1N<HtC+eaALs4FBG[elch;(/:@XNEY7n!jc1Sn%3rS?(f$apr7Sh~ljRi()JcF;n,v#(cF$g%4zsHCP!He2BN%LKTI3_8rZC8?wKE(8Awq#I;^@0zXDajr($<0)(<E1N^q?K=0Af>)-#$Wjqq[A?v<acYDJSmjO52dO_xN.-7uS@%^>~F*);ZL@k5qePJGDE4-<z@cDIUOU,N/47hPmLM1rS>4fHe<j8(wZxCsZ2B[_N>!f]&vT&#TkGgu.?<P4;c<nb+?j6+QT2x,CiA$E(!Jqsr(v[_o@Doii3-Fo=SsNfzffI[D2BwNZ#,xwO:ezCxPqI#IW;$tM2^O35xW-$KjUE>M/@_;nQd6,B?4rlfF>]Jr]Eq5VhdtqJ1X~p6KUgN0BxnNYb;-47PR,u,UEp]ub!Z#sSP.xPj91p(:RPHr;<<QMG~wCXr@1g7Qd-(r=fm,nlrinq4RkEpb2yBNYpglK7-gf3ARYgc$>@+kGhpXJF>gG@lHbYz_eZb0iU#h~JYQpxuJh2VhRYAq2FX8)W<Hqe_R%M[01=UPy:M+<miJb=Tka5aDJv;V+[%y2FG3T-poWaaQX2,3(,801gzJ?Ut.AT1cgmZsm]OO*eXrHpgjkW0A:hfGN>Lai~l$<oXh5EiJZK(28KP:SOHBW11EezvMSj9f!xhLiU_]nI_^1]t#va8l*>~xGWb9W!S%#ZsSPiN.jn~x3XO1wewhsQbj.~c;Fr(7L&L6Wtas3h^I<P+|?QXJ/hhn(,jcN>_WH+.FHiYs0C|$J7OT+E!</P7S>7V%;uRm1Kf;?kk$?ApVDU<(Z;MdKV!-2HLz*RSe:_p1bg0A@EI1m/ydlOEU]1N3egF:zHCk@)fYY;B(jwAU1kGYEr5RrBN%)^/UE:zW*Vb#l7unyZ4W_kJYl&@2hL#fO^>yTdE|?SJ;(3j2RRE+9V*Ez@Vb<vH+xKov",
    "D]!B:LM]SN8)#slA5s.7qI.e-)nu:,G=!UHJ>>Hic@q6UD)9errcqwnw-HxS>hogD;+h<PJ8(KwKJK$<J!e*JZ.P0jCpoa~>a3r4b,OUFwjFSC#4K%3H$H5DE7]l[SqF<KA?S1CyJ!zEVF_A6/ZKr.iWJ<[vuA)/?Gt=q<2V##~q@ZfuNP:w=S>YKTY[?n#uFokA<(Up$Jq5z>j&zzg]>b=,.vZ4jCLVN4;UPb4IDZd^,GJ;M?^KGf[g4,Y4|gJv$tL16_jsx:ipqq:Jb1k|Qa9_Vu1[m8?TdO;$!ljnVz8R^Jg0^Q%aIzFw5zd&?]ICHSPZ<B#s(h2|x3JZoQE1|y+Z6UB]k$6t+74k<O8XM+Fg+pY*8tB?TJXjW)3PAIg/[IT|/HyTDKYTUHr52g9|Eacm~y>j<@Pg#:+Z27WC](Ust26i$2=r7m,%VMP:ydmk&9CO[YME9Ziq&9GOEU/t6e.Bnp^_B/~j#ZJRHs3xeNh^=fgUA$[QTc.tootpM5$OfQcJA)?TN=ry6XQsAf1~P1t/KgDdzIO6W_596vBx=_lV7o6!~jz>c_+@pzXwSeMhlM;FhPyRq]EpErQ|IMQsh@PnU~nP1[@W--d.6PTWkAqv~4sNQIVrf&3bae(iKPVLsio@dV3HvJAaWZBcH)k%9n^VG[$bdN#ON[6z#m+Oic^r=dn0%ijP]O2k/qttC3Uqy*[Y:3=O5CQM|S&<@K@_^*5W##zMC*#D,/#X+XLLKH8lLqjYD98P-S,5k7ol~FHE%&S>]RX]f#nQk*iu4~vlK(B]!yf*,]K&s@_D@+REE2AgNi?=1=cMxfO~ZgZ&+b/<:2wo>VOHn?)P?DMA~)[8b6o#vN*31_N;_LdCV(n(l#=&XBn8NNg=|SFYM/xBS(c/qD|*LSVRWk8F1?|fob@(NE09%[<0/3-^CSiy4kiAi$QvL,#.xXlqQ_+oAD[[8ol7/YpAb-C!ml;s*RZC,LH(/9jRNP$OiyAtAHzLrsl&",
    "ne_s&vKSQA9xM,_B2i$J8>5&V7k#T_o%;i.>m3]$0bXEUr6>NY_oe0i]GMvY%YJ%ZQN9oYYwk^A97g[C.^H!D>]I3y[j[ouo|XUFVdZ)K1aK#,+~,)3zHG&(EZ<D,Xz%G=q4Z;ari1R!Q8>cxawo~-RPs1IVI8]Km;!$P]0EL-4Sx]d?v@$RA.gU;:pnK#3=eUWD=)b-S5:~[!Tmr0l8dbNMIR68j8Es_3qmBe~@t*nCl)Q8JCR2uZX3gB9WOl_YZ3LSm8n(eg5N?znJ)kDeqkIfcmI^(mNd<Y[2T*@8%]D&e02y=s&&av:Rx~AcGVW#&/=ihxFx=F&tS+TOf!M$WMRAmL3#h^AC<CURwRhyotT;_q[@5qAdj@yzs$z.o/yCb.y[]zX)pe4n#p/KvqSKy/LbbRqG!r].Dq_&-9BWuS_v5g+It)9|WL>ybJ+@pG,6.E%zK&!Mr|kPAlrbh+JSYRC0P%IXnxpUF*(2sk=el>^kwvf@.XqaQ0AV~E2:Mpr]og(aoQ4<=DNCS/AJ;e-3n[y?.=4^|q-X8fJY/qygBH@6,XMlA5~-mP>@AiUiCYdg|kmBlE9%%RFWL^G%lw;PPh]Ne~__.O?+Z><$Rs$hf(kjpR59W?~nVivi~=Oy:LZJtz=M>qU7C#p6MvRBZYNESTPO#zZF0cD++d3KJ3|N|?vSsP0[#1_T0eM?C<hUB!P%bA(ulZ*l9GS#1%6Dy0%fjl^42|jUDYKe75L.7^:UdOk@_1BLD:b#f2MLy;Mx&gYCw&Z?wjp730C?I#dqoI3V!Uo9ka//I=8EgE]ywfCqn*_D02%jQhsX6bv8hn7-A<TE6Uf]CZWle<:LxO[KHA#XBh]r*:##%+f7SZ,C0-Cm8rUbPb@M.w5e.Y>To&~M!1k=zsLuPU[Q~t]w)Kf1HRC<&d<I0]~U;Orx8y1EnBhoy|@8N~j$xd!#c/QOWK44P^mZ%<&?ng1h+2?#cQ#9$cPI$<[H9d%_%U<)R%8Kz*v>",
    "vQ~D(Lhfl5|t6mB~N%ED70k[=AlY$W&|#a##-$ePv&~F@q&s;ludMN?)RxQwDUN+%>7_*tZpiB6&a)31=eYEF>x+mt6E=[4WMHA4ZXCC[KTadKz<-!RprIZ<S|:x9bXE3[-[JX6O6l2ha4l>;(cD/|ZNOCa~&,MioVay?8B|Y1K<;++@F!.*S5nPP4!!Vws=9x,K@cr<s@/9R.&/l~3Ao4Sg]]]b6s~cI<nL.E5FU@v*|W~kUQlda__tH]/0O5t_eB?!+3(WfNS@4W_%5H)>GUk]7pF9:S^eKX9%bULOyDOrxSU@J9IzBn99gbWSF=0bxt4,Ik$zj]ahvgxcUH/Cp^_$0A0uefcqkd.*jC.0ge9_j1]z.s@6>RY)=87TV]89Q(tdY#wAHZm@Yc^e>hvLwOo#ggm]R?D?gYd~.yxJyNGt>A19?+di-%!V,eI#3mnUVjW;XfTYF*L%leDSRYF8B,E$_VQ!fR*INk6(!?09~&[#XrZwtcp?3),0YQi=+@Nm&R~mr)#^guDjxkF!x7?%u>9]&nRv69c%,e7Kp)xmqwv+,M!:oB|pwqaK60?<vgVX[!T-,rY=aNOk(j]witUo1~TZ]F~Z]zhHw$cz(_O/PuBB)u.lNzayrg373w->#Cz1;wB-jiU.c6Yg;87?D4$Ej;KK^k;;v<%cF&*Ysu5=<C1q?@]2<<ng8f8zi1*xFQZ_/J(+:-cZL(B<opZ/P@DNIecaR%:jAyKS;WH@f=@C/5?:(Dd:LA//^)uT>%yS-z>5X^]vnmPCsT.iOIpE=s=_fNf,EGankb3sSF3nuw9xuwCDw@#SO>H(i[ChxGXpLN[rjq]OtCh-R/UF4v75.y_>@98xl6%21_33JXdrZRh4YkMC0Vbs6K6)oC=T6>oM%<%x!o2L7Ju!Lc)@)rX/:0rV,sCFl>/MQw3aMmJ>:W-_pK/9&Z7hoz&Wxh)Hsq|Da~]@>[>to;.L<G5I2%&Xk7-N1^M]+.1E|FYzX.-Flo-!",
    "Ae!2S-8qh;LG@Vd:v0]garL&E4:>kMtFdnK-=@&,SEhVk[tn8NW[h<n;eUq-Li1%@GAKC!?uvLIvq6yeTLtuR:em/SX|6|h7r)O~e!y[wR-TlA$hP,@<7[<-q@9>~W*kqS2n-kfUHNdzuHn6ln&SC:v#kw#|w%jCNZ$q)&FNdsa[]<LSw^Kp%2SBrWz$L8a?|E>fC(|wnW2eL:4:9YL,eH>dDnzQg%IAv_RpNizC]Gk9jx:P]Do+V$pOr;8XA|)*b>r-OfVg|sw6:U:=Z6UJVP@~IN.U)<:DuU]e?t42nJg9XgnW,kHc*/gLE#Bb8o/dz-^t9OZ-k2rb<m_|q=.KTtE,~1r$+c-N8;w6[V43Zwd77NK?_X4O-b<8<7r$-<5jCHe]9%,/.nzD%yaP2U_5iZ(C$$8Nlg6BjgA0SRBV%m@Hj%YJ%aIebbWvP%yV|B+xy^^jGz|a>vR[kZp!AL8$gDeZsA[hM3*R1X/|KUV,*rz.d00akfJjMPtsJt?aZ38TlF8cNG(jDa9.t94@/w>]%:SAJ-:;8_NO-)1bb],OMP.vz]1Q]uipw0jC$?bXmoOEW7!y2wO,y3,qHLE$gcn%4M@shaBw%.1ymq5x5y=Wb@/$h)XofQ2qE,u;!A7<p1a*8$#U(JaVgC93D(t4Wf:6-><OjwJR)WTh-bMm8vV$F~A?3?LK<G:bD7P0_Yp&EDXWjx%ZL1(C,u;F_W:yb,I3q(o4tblk!i1)B:~fy=1K.YW8[+Am%08R>+?%INs.(Hm|x2_.;R0crZ-4QCpoak(>xUt^l|*D,>wXFp<Ndw.AmCQ=ONffVo2/?pXYv&Q*?VJSA,Bt-kA&$~_->p|*t*Cg_?aUU-wktGyZs],hQ1F>b7nMOkXr//L_j<6!rGQp/#!bi_J3Z.U$9o45&!!FPoD[ldKYbn~b#F=D)qS&O&!hI&3,z0jVkX3y^YiOthcmAgJ^G0GoKEmu&ak6&cED0octlLYOHn;aESQH.IwxfcYM",
    "fI5xM~1qn[@OD^RJ]-ZmoDzRIkTf=5>h.TlTj8S<o1PB$=&QhtlSEpGUa0q/oBYoC:Hz?/@9ALjhzy^_1yZ(tPkPc?F<[7]AVM$c.Xax(a|g1d7Z2Y7dJ0phpjlyt*l#K&4Zbe-q~NF;|y*oQB:d[p4m>)&!%HTIJS5noO)S4ZRt-a~Yf[,_>oN&;@FsIx+EabCi82T:!&p6h|J~:fcPOo<.tDoOzMZG%I7qgO!ep$KY/K1d(H??G/=qIoZi<5VzkH6~~]1Iwxq7ebiT5a*bt*LBjpBYWE&2t[RY]t,df<t4i+Bv6F>Pv>@tH?s#r[FAO<VJ[6dGOW)7h/O:d?fT+H:+&eu6YJPt#u8=2+5$UIb;bcD!^3xz/-liG^??do)G!K6zSt|re[&$+:S7XpfvQI$dhFB6.68qD]S0j[x9Euo)-Q1y3bxjAbj9C7W*hi/z[/>$7Hq(+%&vLf+3SA(xCB<fEQ4MLe@,B|1Iz>VDFI6VtH-;PEzbq;7pD(L8OL!/P&tST#k4y//*Gxv-V6!X5LfWT<kiB!ms]&>cO^F;O]a^<s]0OwrdgI.nSuVj/Y/:~tbZLSlP5cpj@^mS*&E&,2;R!2mV#l=g!$.0$AU!rg!HJ%87y(qC>^K/IquKFN0.iOqNT^@XS3y]x?N!TiH/j.#.C@.c.j1*f(6,Zqs$?u9(%ergK9Iz7amm;9MPq/x?:JnQ3onZvr5:YmI=QW+i_Ma4s4^2E@h9;^7IjT:iI@*i+*hNvqN/;nF?mLVg8IK<egkFbJ5kPF;wybf7g2y5v#__0xSV>d=A<)3N<p.f+Z:0l^:pR(^[1fOJ6HR_d,[2Q0)0eM1m%1RZbCxe4~enCr65N6UNH>,?FeyLXi7Qo_d0>2/b9Shy#kTiA)?)@GAi/]s11,Cx7EYK7^OIIJ1n11!,u:U/c/q2![>D<X|h$Ay-oQ>l._PujIbW-G/R+pI<EfN6%pec8N]*$l%$q.,)/~s,hS6*u#3mS|]C^U^(",
    "ymVvbbSEWya$~TGz+%>2$s?|HPic)11~KfQJEqJ!Z*)PV.O,gwIJ]bB+9UDww5f#My#?8QwzY/=aS-7mh;x@pu7%R/)]U,HKx3F=f]X//odCPbsff!>#l8/,w3*I-%eG_u]Wl>hB935b;zhqc4A,$$(]]k+y>I^BH^dB,x;OSBT1EQ=4#CKi5hjMhy6Anw.udcp/:QoK1+|&9b55N+56mqwL:SbaUnJfUQph>*;2^+bp#]a-GaP97P4FHID+m8WdZ+9e#]+(fMK2M;BWWM%*A-~f4YZ<j8uE40:]7JUfs0_>mCyWDAbhJqS%YhcY;I;;K(~%X,GZt!?Y#B?3p6N0xehq1P:Yz=yD=bpg]B<a!y$lm2Nt;Ainf>ANm7G>g)JrkmwBF.-=UPg;>L3,ZqYA+7)Kv,m4lB42+U~,1*j;i:>5?3XNW>*rQpd%?&:q$wz$_G^|]UU#c(/d_P.s587+JTv$%eLi&L@m^$.et4OZ~jd*%XsS9qGD>hf&?!~Sk4QwBHbbQ%A$a,eL$%68j57M,2DMo(IO7?(L5w((:RK&u^|SypT)xc2[v$UQ<S~D,q;5E=h/cYRB:~Ura[I~$30C~;Uy6]&:Vp:ppWCHlVXm_OH=z9H@9f4wzPt@3@g(x)K=i4$t+7Y&?Pq_kj)s!FjXxo!(;Ie~Rnm]Yjz=*L;SvzP6r7l*KvBREAda.leaB=UnYrj,z3A>lIy%NozIHWa]Z?Sd4wd7N7YS_33pTdnPmog0.Ztab+bK2|/f:J7E19h0OCVeXPs#cIQOkbz%~F~[<eRHbv:z5i2Xeu,QCrw5nt[YzP:=pi!^%x(Qj&3a]-jrQ5.^*9@vQ$-RDNtYPp|6UW;woM&*$M~?#VMfyGZN3bL94u%?[UTQ<=G(KGavUQ3fu6t5/Xs)W0@TP.h1D7UAn1x,(SB^<:2!22qp/kmoQnEO,vF6R4k4.KJ4m^MqS_X?-t&0fxqMPer&5^T!zhX|Sn%]BdWojZp.,^SpOp8&",
    "K:baILoN$DWDC^/D>FqGJm|B>h]P~sB>|b0%qk,IS53MNnwSCP>nmHf@E*-i+e.>6mb]ggI&DzIMkLux_RNZk+.hF~..>N+d&H~J!)X#K&yf9wYc*e~.+&Fy8+aHQjIL8)(i_n5!IBqO!cDG7i;_6:v(qMLf[s3QTb)+A&-Z-XPmMk?h<~ExN]Mxbvj[gI>Oqbq#PC92d0~LXuj/3sr2|E00B&7,~pk)|usVw/,Z37*uBm+nou_I#5BkS0$^sG1L#S<KA5bAA:qWEKPK8q5hytc*iJy;E!0DBid=xpQRr~Xq1JReJa*s+)Z3.);#QYaH>Jk6r%O]&<;zK*&0v>Y:)=9Y~S5bm_B%dCDq!N?8p:3Xhm4(ysvyu#.X<330D$0)Ua@^7f5mq1z2xe!+%m&#:y7F1PVr/(]]TBO2y@QQJe/UKdly,I~DAG8Jl0E,->1N=Ioj:lQGL$H%b9U_aQ;oGdK:4<|B2[WlG%/_(2P11x46<0#[Ui^iFLAxGVj-]Z4~zF0b/WAgi,qC!x?f9<:f-x0S@#i]Zuf~UND/Fn[>B3w_Dr]Kb&IBhzrK~YuJajA>H+LDbLEKj)*Pe/xQ+Hpb)#;=P7v*TFMIvxe.9&7:-*<_e(1$J<HnizWx,r1O#7bJ>Sm1jk;eo?@?Yc4r[5!**ZO&.9M4BvltiM$G?v!%ZNsSEK9t!pRxr5s;gY0j.8_-S%yLZ!<ky82MfD)a7>2#fLO<*bC&=./xW+C@qV2bL7eiDUNk(z6aq+[EY=i1*3$[m8?L<#[8:|)iF-!w?:7Xh=(Si,!NM:|<;6V@9Q#Qp!$F8!Q#Ee,8a>#Bwn6Ugg5ZLD[e.TS>~4:P9PZCr~i2?Um0w)o_4]oN]]iOJow#dU@iDGAV,W-*6)*q()(u!6q*^5k/?Sn7.j6Fla-J-,RYLa#XrWRh#+YjKO-^(^H;XL8K/lG@N)r9P_d+P4titiUxj0?Svo<r:i_,#5JVTm=W@_KTLu6ijq^t$$5+v70M",
    "G40iuCn0D[|%/z<X<d4q0$CKU,L&bX6sKv?:]Ymz.DAbjQW~Ax4BJ531MGmaZi;>tX:xSP!<Gn/0Vc[KiFc179$L2B|~Q(BqUA#c98~DwC>^+4.^6*^29yN:vgW9hxckg*7i-Iux*AG2f*SID9L5GCX<LlLV(IE(sZDGRIBQfxq3Z.:(yax3V3sOCh-qMj~(>|g+No-Bm=gtcF>ueQX5b6u?H?>s?5|Z5b6S*&Rt9,r@6SrcFf?MLlpsP%+rZosU-/J&!3x|vCj:/NC@SW[BMerCd0z);QvFufjwIgQl8EFP7=-lN7](%eV@<?.afomIKj/+GQ3$>7-_gZ88<+0tqa0zE%ZpdST)=YQ@sme|riHeZjjR,TkIJ]QVypi0U$8%WG-EF?5,-)G))OLN&hVs&?0uIC9BG-S^nZu8Vs^JK|>X]VgoHixaUGm|B%DItNgjw,::WN:3@o9FCLQaOXKN8!H;utOmTPvv!l<qe]H-+V<=f=Kk8yF9R+wRALq4#w.3~U-]YCw(p#I+_=&AE<D4M%O3u@N5c3?mFP1mmj[s(o(|hb2T|Wc63hNO+gZid2RH(_Pf:iFmIg^sS>0J<]SWYxucB,k5=#rea!3z#AkFu#QZ,zcce!nfMri@@y_!=&Inpj9,yDa$xnsuf!q!o&5T*2A%lNDEA83H&zCb2DzyM-h0oo~8_ni5d[uLZ0RgkLliyZmS:1eLf>Xn?>6GJ+ufB)cj)F-AsyWfcH08LL:SCk9cfw;orRk&1Fk-7GDMXB&;,B|wLbl8CCQEgVg#O5?[r9>y,o(Zp]iG&?sy1aARcGOjMTdYjEB:c8TA?&HO86cy*3o]i()rEB0xAN;lXI34llkoF/PyrVG7#iZXI%i]k,MW)?@[?h/Wt)-iG7A<11=I1-#S>sf9AxQ<0+7Zvvzdz,~C((~.u+dW~zK~K_m.pjR-0pN@~,qAAX1VfHLLM]=zUAnVpFS[r*rKJ?s1G*b9.rX|OSFrtvzF_H<2S8kP",
    "T3czFRo7neIp)wwh4^5BRA:!p_$F~;U6ql-Wz|J=SLnf)PNqyOH4&YVy&=Xgn3l2Adnq(q(T&dYsSxujFhWSuBu:?G:&WZ)==0>OBj~SPuhA5BR-~KBk4Zb/o?SIueh>e,!xwM!kmgH^UVN%qB%0/W@O(]xHG:H_,OcP/KE6M$OYLx/7[;=C=P(A*.#Z:XCe3z#[ex.5fP8NXG3j;eFK/cZ4G*G^0t5s1(D&#54LF-_gPEd^L^^.O;]0G&nksrH,dW]&wjfF+BadN*]J/p,1kG.9X<&_W5hs|ivD_O+yXf#N_Z<_=h&K6[0H547R;<>F|:]R3]!dOo7AO;.j*Y8wZH~qc.(@4p+4_r^v|Zoh582+F2GIxIsV:#7W&*VFS(p|qCWKC8a5oylFPgf($:iPR/R^.|Z]]dM8K6-Nueq*CrXz-t_,_wu).;qB>MBStq>!ldz.&)Y8lw9t<L%DoLa]IZ|]PE+9%D>+mD!F#/||(U*q^e#H;Ud$qp=g5+WirPNBVr@AdI^]S&CimK-Wf[4drhh]Vf1,=musOXo<IRxEz6be&TYLr7jbU5(26UGdTtMF.k*6YEP*!Kj4|n+9.WXKDD1!r-VE|6_n_>Akx:;-Ch9gYnlUlYVy99rIR$!kU*Rj@E!iz7pYNZo/@y^uXe!2-1i66(jQEUS:J<J>=^e!O1:N>9$2@-0ZZ.<3xjhi,zt:]q=Ip%Ae)QywwhD/EAf-k?O-3^OokQ&fV$r>p&j)NTCNJ,I-&0Ad;XUJvU],0J=;cX0*,JWZ%/Jxn6b2B!Z/y4TD7K[Bom<xV[x8xD%d2XIU92&^gvCli/jo^QLs$lsXhI=yA3N9lYc~,XsI&>Hu=?1|Q%T-c1sWxZmN4=E*2uF~Wm4Dsz4Ma-;xLvXhI6mADi:X@g*jw|Q1K/YiM65RY2Ofin:slyy8Wten?Xt!oxGGM|d<9se*umasw=+x?DX9Xo3Bdi-w!S+rnbP~>mE(c2?Tk]0:!bN2TC)c|;xX",
    "jfAdrk^WjMuYMoCCA2Rh=E6tbK?+7Hw8T[q_%ndh4h5427-/4<sf[mx]Zmsji&7L<N(>A,ir80k$F1O|!XknY$S=wFEG$wGYY!@g79F4cRssxZ|W4(pymhJ=-98U.Ni^.^&W<DdBAmfMh@+u7k@Eg[l-<Hg%PyJ3n./o:bNU18(IA+;R#_zZ6*G:%DP^w(&?T,c<d%<MEa(VP/W~Kr-Fe~YV7Xvd<fiPiyz)Ljo@(*Un0?-pU>GsF,x%5U]Q3[*c_^@XKe=Ht[+eVO.H1Y<l=5F|hBl<5?%yv%]5a1:LD.V3.I[b33_[(BzITXdRJ?46e0-c2e-@)xM?WPu57Uq[Mi+NkwfQ!+_?YSoPW%6mx/Cj]N/]$Nu|EQU7$v7qX,v3o^)Pqt~Fx#jbkdrbK|X;8_CdAMg<ItdVUJSJ|tz*v^@Hs6@hjG/3C]F1f?Td*-5Xgoa@3yoVI%B&/?#3vPXc2R/CUrT9)B@8K~I/~%xDeO)(mGl[MR4dEQGCCj!3!Q+.6/n1V^mUf~08XjVjhWNiuDYEHNEQ4)6cr*k%PU1wy]iY/frF6)C_T*@:=0WZ&aieyx41t<)Q[f^42#wXA#qQetvn:425;)84L^mRoJxL:+u@H9:!MP~k[Jzhx,*u6[,]5c3l1gMK)MbNG1Ae0jdI*Kj*-zSZ28g,fvGzs(Duf3FEH(,:X|ofy6MURByfo4$4[bjm_>iZS])MYa&2K7H|3xKSdG)B)RjO:*=1@U0<s)N+ytKJ?-F;O2,_OUApGO+U.=jG;i;<,?IL$H)6VfmBI4Qw8JIzH:1@7@+:o^uoK&!XuwpW&#&TM)AdH7X=:j0NB#1PtwBTsx-ppv^-hH;#nDhB(=9C&HSJRyE/~>]#!A;%2q6VMTf1UWZme;]RDP<!LE^GWM<nVMNvKkL*N5xA=p(,Q*m7j1wb8O]?X@ot)3tCaT3Zb^i8sq;@!c?(XYMic8%ZdB2JkiCUd0q:hQtFn]h)9etle%v.7Ju|$v/<",
    "hjYxvx5<)>0YhsgJ1gmKd>-~91TxXGrLJSbQWrTTbj14gE%#BpgUBZ9];C%.)]Y(r7O=wtPA$HSx5J.4]iOJO/u7k*4yds!GwtN9%7K&Od_<*S63ZwOm2?!)_35w|gxa#LCmX?0dnx5)zvl:?+*~a_fF%y.KY0%hy[o)^&AGRIUwPb~yWay?mC=*!reA^[lq*H8pO8]3)4]F9jD)(rY>]jeMLkmge%BGTk(~PN+yUJiJp[Vg3X&c&@NaLdM(gYaj#Wg!PUn.q2+R,>WfNoPkKWt<,p,gZ#>bTk@Q#AWIh+I6-$4RYou*1WIy|<wjpMsfLp+g=o[1@:M])#^/&je6ZX?*86J*XIB<j,F>4)|oh|k1_;.wo?K?%|a6b9iD;6xHGfp9T97?*ZFPq97wDKXdMsi4BtZrP&oP<UT|~Xl$blerIU^^ve#KovyDjz#KVES/R^wF-^Ad,l2-INZ%IZ_R>8O=geIfWbj1;|8.i:#D_8!wU!uA%mQ4gN~J_qIAxp|E3H@%o9%I^DH)uF:XSfv%:#GSo7iL,~;o28UDUR,&J6J:)%:#2/@~NfZIP=V@b]u[v[d^7B+;OhDbs|lLlE6PT#PRm?%03Hvkuu3_>]6XQ$pQo_[WHaj8Mc,B#p=kL/p2VSGi)%E>IR|OAy!x;dIW,O]x8G>P-J_]<Rt)zD]I+NT6_sbgt-qF]B2+KTX6gmli0zg!UQRf13Kxqr^E9377x@sZ910V1a25rCpO56#3gPUjQLIu#+dJ%ntDE3+.cRk7,iRf-g&uTPsA_y!vbPY:QLH#?EV(4t]+Nc]o9I,U:mJcxztt!~H[U6e7fT,aN.W]fH$LPdtFCe#WqLZ2FN?8e>nH2I9J]eDexJV;74pS5%(%p__K:V&1@8a00Gz9U?@vx%|&nx08@Y9F+nvuFKJM#Y8/b3*Bw(A1eSY]Y6j*lEEJ?]#Ba*?ABZ|O~yBqEQ[1YG.|.ciutjy4>oSfa#ol>nD*R|CY2n)4l58FAtji",
    "Z!nDvM7+V>[I61**)1yR$K#A<qE-K,[n~@WG]CJu4@wC.PX61eN?^BH|3k)V;$?LVOnKz.@jqW?,3A!G!$RQT|;fBx(s]3*Z26s[1~x$#G)OTd!TMI^OvA/b_i7?h(YuVC/PYskiK=>Fcb#qx<_D>/3-wE~e,G=_bfB.;Ci14ZR|2M%]T2=e6MgYm*IyqQx4IV@YHP;_wj*%A@.;/?=c_k1-1oT.A8DDNCCG_KPzkO>+fZGk45@$C5)1;tbSEWLF|^6NNw:H%s<r0U*n)1j>r$#pbB=8q_[d~6]5]C~vD*l@^(_p^*?3_fY7cnB>3vXxiO3RABw:Fz<8w+Y$?S-WdYoB#pMePdLB+aCzHE?C0Y(_7#;2g:de4P2-lT&@|*H8v=#vBTHp/CISH@9bBU1ka@]KJ?JqAoSL$tm)/+>Y3B!L;=eQ>2+ASSL7sTx[r$[/w[a/>b.PLh$2OI&eO4)FkFCvMCSKSV)-QKL%^9sOOJA2x/7|*4GE6R5P|:k5L,L@<H~9Vd9a^9r3!DZ%WY|+<<XDSQ|L2WMR+/l~F1J<jx&?GK~jh*G|L=o#ppdtL!nJtd4B:oZgJ()LkxZG$+q#NcYqUJe2uIGuK;7c>5Lp:agC/]hQS=Dkv;.9g>7M$v|nDWT>a)H@?u~S2/(3s%D7kQF>X$pp(.%#2B#=eP+!T.KF>D]6yN<Wsso:lw2:@DSAM[*hWjO42??Tt^kYIWt:j04IGWo#D/aP%fRLv8;8.Mn!XUd<0iVssh7FmRs%x(F7$@t.bT3xK2gabX)DI]IC3U-;/%OteO)4n+Q!/KKUTz^Ptw$;;4^Xh1~q^s5A^k=$,!qR;1kHvCO8b(q<a3KR9N,~#XHeZ(7~rh9+uvW[)FyY~cd:1ba$uLR%q<!^y1xW5~8X|>K946fd_V[(IL=FjU*-SG[Sx5nMnjsu]Z.tB#i][@LxEKX_mTkF<W=v>U#E6R2dHVc&DujY0q,~~cM<RS4;I=B*HX8IC@<74Px|",
    "uvKe8(~&nDL08F0(o.pTVQxQ9|CF_OVVj/~[y4sRLu|n6~/cq_csVpk%mkuO9^5jI@*&,!TU]#Y_$ltKHr#.wiS%=dwB~xkzC$0Kuc1INR19NZ5EuU);EpXqu=d8:7/:&PvOtx_,bJFO4qP<~:wq2HfJ^a.cuRG+U]>i?J6<5->EG9_J01E9V^VfAQiT(^_gU9an(lU4=D&(RZh9v<X/UOfYSP0U,UQ>hG<$_IcPv^.y@_V.fBS-%(6_|cNxTx6jn~eefrAUbtFg%8wP4fkGklXRS4)4NQv0dm[ihwAjhkt^Fak]=pfJ-_FH;3Dfc?<^e7k04#1n+BChp@nwQ/Vitf5LF$U+16d(Ojv~(MYg6)fKEDaRX/6bK))3G9klE?@+I^661a?(m=V4Nob9e,S7!~>(d$?-Jtz1e!rz$Ad)nR:nKBWV01QcS=mY@0J|RQs|JxH8~7%6ddh(dFg|0TvnP#>Ku)4tJ*<v<A_t;P$Ig%u-NpXB.wMUb9k|TCbU_y$U:J:kgg0n^@#ZQZKBqq!QoAu-RfP&cbp*wA2HfQLR2_er|2q7RYhXJmGR(VA;pj4JI[B?.McMe(oFw+x5/H>0[+cdJ,,|Y@#I46d9#ixa7)NwUojQv^:>C$SQx|I()Sw1hlVt>huaCKc0kNJUSbqPNx5nWjFxrq9*5evM?)zWsFx_0$upU+I|xOYvrJ4fwLQRxJ+)CMj4NSxu^kZG/YY8Z-OtVVgXKL6aj&N,S=io^V%R_g(31V-FjNVo5-O[R-01Jw:UJnfsD#XLWidxsY4%j>N8@f=m#dF%PVS$%(iPeV|kIm2KtJL7ucg$a1VO^MzJjn3z+p=~uJ*gk=BSJ-x4(mb|]?H5F[<b?ROc]>6-2P=iPOVa?F$/KXIU54FR~M|0UVv0#_.sOp9(t-CM81kLo6McSv4?6Y,2&9Owt(e]uKRI]V0X!|FVVwtJq0Tgrzf^**HxXAMq9exf8nDMOCHbS5_FaQ?~BX2h?Q~K|bSy",
    "-eZ;J,;XOC[$A#(]0[tQ]tPb+$JY,Q25dea-n$l/V/Jq_-MATQXgHa!g++?3UQjZ!JgA!6q*%FW*APq>hqlNm.8l<0LMii<glQk[a1=RCtx!;UbvW=r/%)j~m^D4|$sqmOClm,yDy7[Wl%54Tu.9&jAm2/3E05:I@nZ+j~.XH7><1^iJB[EHUU>qtM|vzV_<Cr=NKYjv>T2Tp=h)OtK#G$~))VL;/nZ*r|Fmb0in>.MODb[#a]tldJJKa!MR!3CMRVa>b)GYzs0u[L.KLlBck@YH06QBY4:mLrxQWN?ZB,WubFrsHfxS%s&vn+SXJ4ej/18k/r?B~c<I8%[3SkCeanDsAJ%T3@6=kgvM=jNi%F%~zQ:K]1S:>0|NiMIs;VTAWI7tPj8XD&>E>op;~-(2^$/?AMF_)-nT78z<ar6u|5hXH96RNSXG/_[w$C#wv[IXLI?R1LkCNA3Jqe0+?oeQn_V!x5>,huUHtL)z~C[|]hf|P)2TmPnRj0f@GCfow*NIk;CzPPn|KZe?F24WoG;Zb:?+IR/ABDApRXkXML7Z93/U:lt>MMBa!LRy-v%nuI/kW#n8uP9U1F.>c&OC=#q>YQlX8sQC@rBjQt8h:mLR/mn/#fvTF#TSDR+d7XcCb(q3<!kO%gU_B9p._R+EGn_lyc$(tx@L%xJhJeuIZVjf-E?>MYkRF5<]hWVX1/yFT?YSkTn[u~7+^bB|nm/|br~[8[5ABuL_~65_3&oKS$Nw$fOqOTt;Gfcp7%HTxb$*WIEKa1Xu*/n[Gh*x((iTi9BHEq^=Ow#obk)TM:l)h=+I:zSdhjSUK((3e[ZZJ;l1e+v[US61jY&&4B1d]*=NncpCP:gOi--T=(m.az.1fc.p6;n6^f+X;(GH)]KFlVIKMXq/c%hGy^*KcYVJB&1hk=y0FEmow]tew8)BL:Y%[j5r9MP|PAVPyzT7*=;>Ku:)Yx|D+NyiP7%K-^Ih#fG=<$0WsjMn,;]jw-C:^((0-=ca",
    "u!B9vk>$O?NuT2RML4!QMULIur[L+>8ii.tdJO;O6@]LaAZP=ANg(g9);;8|<5e=BB-7_7v92o~uWq>NoVLT5-e$n-t4J8h_=9W^2.rh_HT7@hw)rf:8w!0G|6:jvH|?1HvzTF=r(|vPSbG?_89/=$IPD)6xY3&k2qy%MZv#YW&^GdlC0iz7DK=5_Cv3^1~;K4b?M18-cfWFh0VnPy1HY5JE<gz[frd:jfE9_qJCI]nDc[U+ul:dz7IiDv$/<4ai-NlSb=@D(x0gnBBeuh]L)]@cWHw:NJaGd>RRC_GjB+Ym3N2%-V4Z:1Z[kwshMC%Pg&rwGzBZrOI8FPyGxj/RVk40[tc+A!lw~1@Ome_%QZIHf|w?0m$2(>e$lG4OsMOt8ukE/RQp_%;o|V7$~4_xqX(%,[3O.4&GL6Nc4PeFk@u:~sX.,[]lYjX?E4f8gk8_,Yt|Y&_FXfv57$PX;G-.|UL561L3vvpv(nIRqx9L5On)y*J=;!cj~e?(Yj1B&<w8zZNd.hg+,wo$FBGGyMFE2!u$IL<5)a<CnAn;8[xlz$U35L@vL8[8kLKi7snvPL8u*V%E=ph#!UK1?LI$~JeqDUV+rnkC)l]8I+5@*m|Q;E?nS.MDP.6r&OLbVmI]c@v)Lr??a8(WJlb9A=G_0pfKgo&5>sXOS>AT%]xdr$.#1]bQLY7d)>7Rh_+exO8E2-.pa3#]cD.AmC,@p)wLCy/pq&#Us&;&YZjVsgt8pnWpL.?YXA;_,in1bUS32#dhJW(j1AcBE_/#OhQZX6eR>nLB_+atF~Lq-Q>~=G-:rIer/Zy=eAgv]pERcZZK7/:5A$k6D^aq,96F#KURere4!RpZr?BgJOrFr;MMGt%zVk;tmg-d)%&vWo7fN-hbkwrGk2F[OhUx,^=G7<y_JTW~f,r5t3!Y>+<tvV0-k1]@(07$rnWJ&]8,=d!/HR-/21wzk.:K;Lg8.fv]SH[*re#).f#(;:&%@vm=w^r:w?y]8Y<N",
    "aQxMQ>gkJZXC8m1%HinHQFx+;hb]8v1Er(SRrl(|=5P=k!]aYz.5XCb(M*6Y_nR0m%84&20:9&qkWv8A+M~BL9%yB(LKzjiOP%);pi7K9+LSt9UOgnFGr4-(x9/:p]3.5?eYG|I6+5<Ceuu?YWxAg&s+ZgYc6:F;Adnb=c+e@nan4</_L?N!@Mz4%cY+BcV*]@#am3@Be;%^XgkTErR0oN_P_Q1-xo)kt^@p:.~*vV%%TyieY4!20q.?>M>@Y:N8YAm)@<4N,fi)W9Cs7A$WaZ6@O1l@i^6WE@GPXiX#|,MCl+DOnMX7X>%ECk4fj:>%v@2w^Fax8r[#cxvw?!!h00,bN0jF^7XExo32PRdMqsn*|8[Z.efH>Q2/ymAdiBI4f$e$ROlnY0fP4bitvIp^o9:eVT4&Qu0p@Gm7:D+3vjV!I5Kojctwo>6*Z3ctG~v@jTlYoMHc7zHZY8SYN/S9/[3xOxkG2Qu~iR0dISbsXH2xUEz&G-92em$XLE~lPF6yssSEJS.3A:iR[h(H3ni?=1#9jzms([1=Zh<:qR?e<!#G|0Csl@:uUOj*Ouj@;+^HL$HMK^5a#Tv)Rfo_Qfz$ATChDeT7LN(KAY7*/Hm#jeETq1W^J?=6e_Copq$15IIu<h<QeLj7F<P2J=J<<g;u75z6B5Sn:&0+QGY|jb,[2-)YX#=;kun>LTaooUD:A2@059MtK-r4U+z?V(.6cNESdf3By$3EIJSBw$2l^,ujH;0%U*=uc?AvDoOi2a&.#9:s%A^4dY1Kru^W4mkT).AcrcH[_Qb5>%FNU9L:?XTQU4xJ9,T&-VZ/eT<O!GaWv.1@^Tez$=,=&:91R0TpkgY%=1+|UCT:hFSX[t5?@+1WjFjD*f~@1rM?UKf(I|=W58O>VC0||yV]U4$UO%r:]?[Ss/)Q?k]E_)!&M@52dd^q~bAFBp>aCA;Of.KLU7hZv)rKz5ES+C9n~xn?J-T3ny%eVnuVhy3R0E=?MhGG5npd",
    "HS[CK(2Is#O*(OHh,Nvj-7oDp(eiMvvesZbz2r,>wGWvPO=jLbk0|()k#F[dr88!|#E!aP1+aDlL@w9T<Ib@;I#*Jb7s/p>ZT<S3fckUuf6f~BwN~8-r+*3(;RwQ[Z~CM+hSLL:jWQRIrm6dFk^_k+/YQX*&I0iTMcPzT8c7r1RNmiD4bv!$%JIp11>#7?^W5#Fb_i==/]gsauCR%)af+I-*9o~$A?4*P;>PoR=^j8;-QfX(2#4|NhPE@?v]%Gg>r+l2!7N7^:NX#3o=MeI.+^s!CAA(4sM>b!+]i+YA>zh|%1dF@veyao,~_^HDY33:NL:64,%RfKa$@^*iqVqug>Li0,(VX;o~Ve4k,5Khh=1Bnz=l.7)cLS-AbO/C2YU~_3T(&Fab1t1mqIqx_lN8+XXOZ$@;d5<)d3]&wOon&DQpyt%Z|Gi&N*]p;2:Jphj~kh)3%ihq^@+J/@N=dq2@W[s/eAgk#Pm[O)jn?zJk@,fSm4A-9D)aN_mHnL_:LZn?yLAvAUlc7a^wB@=V.8a:MYJ@rxbCamWu;u]SRhG@)xn61DO_Wq&BiJsNSLt$-X=$hz.vxU#Fs?qFtxZN%JgTe^8_W,iN!w^h&6n(b?!,Mwt;(4RxjADwZ$>>AsoJ)=tI)z<p#NiCjXgJ(9*XxB4f-k9qrAc?vEABMP@zlk~e_U]BHGoup2eqUcqCe;Kr(478WdtOf5tU7af%xGAb!/!P_5G/u>xVISdO#YghHB/Gul:j_A6s3cXC/t/3Nr;U/WyaV#IB?LZ>C-@!|mfG49msN|%ZfexxC1R9s&/4Is0KQOy>wF4sQ,/Q88[t[GqHr1ssC!u*]<9Hd5Y6npb0ifFY)Axj;+U>%0k*Mc,|p,LO$P&Q)QD3<8zR701|0=3)1+Q[tb?E/8-EJ[2l2~qkzQOC7n$V~qm0RYC2v0K-qglg5Fkq-4]u1,?5|_Ez!f^&7Kir]K8pDXuQMX$uiXRfz.8$?Rb<V5UEnOT=HQ)Sw[Wj",
    "Y9Yd1y?PH$-zDqnvQf0TnwBf9qAm@a2IsxWH^vEUU0dP%>,7?]#SwZ%nQ$zZP)Us~XK+N+ElUC=y|IGl]#io13aB9C>fflJ?mCD3^)tz7%*(2B!oV.)2Xk)N_>P]7S]E|kFKRq]s]Q9tsxP%M]!H1-02V3ET9hNV_+$*Rg?j=!|B/,3Rx%?|E-%2YrbgtdE8T1C(w1gXf_!cHx;%/*~.NNtV.*Cto<Xp(nQ$%u)34.!dh,N:7?1JLOt;$ELtQfOwTK7OWx04Ov6=a7.O6s&fmF-]s6tG485HY;B?@.-s$KBWGQymdLK6aTlO_hP/+Q4)_^x2]YE+QHT9l|+@W76B5WiTx>pouZFkvXq;NvHjUX91|:xCwIx7>5(iJHMH*4+Im;L3mj6@^lA^Rz-^vnaA.[G]<[8OuGxC2xwHB23y*I>5;Bd7m^?:NAdpF>w_$b?Q90Iv38Gn,wQv_R^cY|gYI>roVEySyLs2o<?l=aWa+JplbW?n[qw$<pf^cc&Gi-!hWvZJPUVEPqVp@fktw(o#WN=Tnrk8@C]o(Ct:YT=5V>7-p4$Ro!8+:LiC6SLb-S0NA.l4@s#wPTxIF+Q*Hh3hI|v(O1A|g,nsA=yBf&0lQEP_m#kDLoR[wf:P4NT^zVJRuzOD|R]t8F~A^lp_y&PxIV01WDeSf*]Wm*?(oK$.kJa4U;quy;GF!r04|cBdc.P~#:uxMp-M.#vZbn?7w2E$F_<Dzc#GQfQ/Lo3hV2Y[[gRdY=t(9[=WegM(die5j+=zRZk]zql,VsXnpEI?r,^-#~wz4Du7KTdb;B9Ez$(W4aa:Md#2w=]jxfA*1lyfl2Os.Si4~4uQU*$0&[k>!n@xBj/sOP2U_Ta3#QlA1;8-_)UmWVSIE#?!3S5QK~7;*Uz(15mFmA=[Tm%k^[Z2RC2z(yGKsdNEJCiWa9qw)^P=hzGGap[RRP8edEw)6/88_Vb*^~;Lc^Ux~F4=4hA=*8]We.U:a|Bdd(dv9j#aY-WO"]

/-- Part 3 of the range code of `nameCodeText`. -/
def nameCodeTextPart3 : String :=
  String.join [
    "oSR$Zb#:[7V=Ywh@pL^t6$twBpjoH:6[,X9XRP!LqqZ/Fp&S|R1p*5^75m!wX!29B(Geb5PW74)0IZ.R=Q1TUy7H^4WHHj$.5fenFTe!*/9z*z8|Ui:7o7@?rtOJ3E#W3xL~5YJ(/qQ6Xf.PC:3Aa%=Rc9B1G_+T/IN*]c$k4?>&vN8vz1K[psb2x9%P@jARi%:R=,I7k-(L0h2l=_]KvX9-;rajm@dk&|5pZIHy!tx/2@IqJ[C1NQ[=5Hmzt#:@//xvJAb?Ni+zx+Cmx*k5+hFRA)|bwaxj+)&=E@l:WzGfVr&tibK1B?qShWxD%|(<_rK~a[7D36UTx.k8cF[*d]*QK(G+/jKXk2BdwjUB5BBGb9|3ogBk0g09Ci?4dJoGgs)^+F:/a#w%n$42goLMEY06GmlTYE;W2*5cW,.S~QfvzcuofB_KxmuM=SVI%Z.[tCYOx2k0JlFI!CH<(UG.^HNbTprU<ws.FGEyic^Rq7Jsz.64S#hR5TD~>XqjVI=c0Ad,V=Eglo^VSCHdMe?2Y^~(@F(zx#W[R<2D3:2|#*]8Z,Qk5JjH@DGkmp8j7(u=&d3WWCM-Ynx8hx>HgvO1VItntHz+V(OAZ1%mo.;M2L_CA=r>G[Ucf.Jo$[jS=94hKVEGI0i2q(Y9>nt+$Dssx!8tQA(0FPN?)Ncb;[,5T-kb6cmJ(+Ujs,x7_pm]?jig8C6(9lpdv^4,_3>@;aA@yA%WOd<fu*-oA3*d4G=R3=85Ji5+ExUmmaw+>1m8r?^)eAs.XPx|)>mUiQ!ODx@@C)#kOie/-%_v%Gm#4:*LW3YEZJ4hy!Jn@ap):5b8]#Y]PpWvyc+;yBa#[vk$q2j-j?xqx.Nir(6SWcxV)15_Y1k.4DPHfA6=A;MZr;(82ooN1~sIaIGceUkx/Fu5iJ-?V#Ha531$80JAC??=(knn/rMEuc;>vbn*lX31eTLieUh>2kp-p)ivGj4F%*9741XFal=Adw.R9(twlkk:*_4t",
    "FW49jSGc^PSx]@+JR-f)NPd6Y;G^S0a]S]N.2z!-Ap@n=!$gow>QC%9Cvj]1L-]?8!!2R-p#;9g!msO~@t^?ySP?oNY.,9(#3s#|y/OoCFt:9:t5f|Lxq#o;:IGVmv2vu6mE:9_5h~IJsA-Jlai4x81K]B]V!7D=BG~SNyn%?u5*FJ/#/qdp=RTaJIuX/Q6nNjtH3q9|]%t-dlqqw4aBLQxS5LcjITdgoALN&w|hH3IS/L:lhx>SoFxzR0U-U%VZfuW8ZcJcNs.3Oj-lP7H22+OY#n$8=ZA48@*!+Ggsxc?8~^<v=4+ht:wu@p?5A>AEmU!F~d|;-p.;N8g.P.JXtq+sPV~[KA.@^O8~&zjT9?iGDvy71alPmn0JAaUxzQO0.If_U(KT_k8?-OqvnCQJc2kY]Iz2k[VRD>NQE!.DC.nM5RCJG(f^i5Bzjh._dt9Mh^6;H+q1Fg0>9lh0wq7:*PF+7v)2qZ^=RzkC&dI&GSG1^hSPK[C(6[0j~D!FV]i*!~ZA|xt+DeH[C(J1!u4AQ@v!L@sW,hrj=lwi>2y$2jr9E&5ZSiY=C$<:Os+?O,Erf5YA**TN8_b~JB7H]?u8IVKxo1Tpo;1kU!lm0SE#3yb18,?T#Jo:?#6_$B^;?AU@@DbZw5/buuW4;knX$]J5ZAvs>HM#Xj*Xft(tY*JTA@T$6g)gSlb^+TgBC382Tvkw$Mqhr&Z^+U/ozi/A)nmKNXlil7;/>5[5mc5C+xT@vG0iY=:L~lrOAV&BG[%?fJ|*,W_B^K!R~T%f<yX8H/J|4T^@90PKxw~6=7o,#CktQq)%P>~4#h[nL_C)%e_kf-~g.N!w=ucIpxpA<Wta|_D>E1]X;xLAH=<zoqpz%~CZd|7$ci/hyO_:z]*lbP:-c>*ddrE@^2pvC=bY1zbg;%i2ycml5EySVu)/zN(Rh(%T1tq[v,+q/)rn7FHCSk2+%Az^ml1;Luxs2HVDGY*k~-#gPK]BLQ0ztHKhKZzsq]Oy",
    "I;AY]]~;,l;kI%<AG^w0KhP6:&D/+X[c2Q&1-Xfu,>oRjIm;e=WCvA$6Y|#O)a_9@@v,[@E=s[E5X@G^)$E:idd4&]hg%a6wD:=vN=b1&%bR5zxdgpYw/x+y($G*pqha2M!R*mKWglT|&r@su]uAHjxAJ=Zo%=6h|gcLm/!IMdAQSEN3s?L!YLyKf=e;z|Ujdm&)%A9wwCVv$J]SiJ+zU/gqG&a;h<oR8^(r;gCS8h$@o;/h5(2R,7H@bqkX@~,,c3?zrDJ8x6LUX1>[B[Oi]f@Ic-CW8dHT71E0Iq_iEAxMAI13WJ<gc.tvfubOvXryVo8u?t*NG4AQA!8O&mr2e9gXY[uKFUr9!9vadTg-Wxl)ER[|B^6y9?A_b.nh$<Xe=KOl4mTOk|hG2~:a-h6zx)onc?34I+aw1)x)?SASPm*Dh5InWZLjC!ItsG*-;VkgUG4+@Z_8%1,5aF?UJzm9U@]Z^$>y%$1SAV(7=0J+xYr|hVBZmg+r?r9/SvJPF$8Y/JAQmei9vv|0..ON+3(Qm!Br)@Z|-YwD|nbPvpRgZh43jO/X_V2>dR,3!#,NHQYzX3fqo)<aybn7N.73C-FS#<0Z[8uka%]>R?==iK/<LPIqgRTPVW:C_(aLoNL(j(4axILumD]oCFgIxk99Aj%$^Zr~0lSJ&LueuI4cM;K:#Q(|2Ll>]Qv+1a_V+W!a[W/X$@#*u_F<Hz|]]o?Mqt-Y9kQ+u>lgM=!s;?dc-@fQ#xX-[(#o3:TnEahvNLCDqWU[!=VeP]~(wa_w6^IsqI.ROwdi9&bFxf66Xx4VNa)|Su1943,;G1tm%VlPw-PwJQGAc#f4q$kZI=QqDE/>NY2+^Bp5OZV?WfZaG<a3=nWC%tEZJUTXZpl;8$NXx0r(Ywy<bVX,kvn>EB8*XLGx6-:0vvGM|!0QSx?0v/oU|A(0>E+s!1(i)xS>|!HN[gT_4gBqhi.^<;@.!]3hDNH:Txq!F~j=sCKem1B&BOl.VfRR",
    "(N7@?~*OOeIUSMWr)5N-Rj*jkii2N,Vu@4NCfe/9kyT=g=)bG6>,Df_2sDh)<HH*H$NGqzQNt5t[-~?f-1g9ZXZNSeD@ufw%O0=O(YJ.t9(@<Zj4XJFWP$~oqLqpXGBQtTz-Nnpq-4&h4]kzi/KHA*,hZqTyS;,@oUfxB#=%levbxB7]rn:)^$.P5-x)LcvJ^_Q1>FF#s+D|94tSLW7<RA%a~wkt5$U*O1bpv|QuVdU1QEJ6jaG;Cdnr^l@NiT1m?Gxq)UjHLb5VCF#Jjl_i~IY_nl?[qRZ/lmke?v71<W/QY/67.^O:uPWF)6S*tek:Um,Hc$>s|b/2R1!]<non3NhH9SQ4XVWjFq~x4)uX$&A:p6;aR__a@9RAfO5qp![!uvnV]o(lDam,SJXdO^2Nrd[V^;3&K%%,<vZ5busiY;+fgrk0R+V-Vs46_,)#-y[WP)zio/P1QV!3mE^A)ch$14wIwr&xtfOw1@_V:Lx8RCC_9b/@6s7~QX-.fyWElOW:7ofN)_emT2d:hH4Dr]pACV(E^Bq.Q*nUN^A]3e<BS3T2Bh8j%U$Sq.iUqqGqMogqvt>;Sx~p,Q,lCbgwS%T0qW.Ayh*$LCTh@QXHdCw^HgV]QK1+w!8SOL;m*:ywCtN5kE;oe:iTBTuq6HAcD%kQtr)H*R)?>F1$[G[+ky|Fzsem=vs)f:bQH^zU&Cy1r.<1d,_^Tf@XwN5u=M7:K6Q|JOufVmYeJhe<yLoz;j<bLJtlXe~MBd]!d&|g|8dm;9X!L2_,o*@/n<<bk4$XL4d-~,n0VV)bO7$(ODI(6,x;xYsdDjJrxTqF1I0.T%]1<8GJN3o;I6^jU<(F/fXgVu@|Lcv_XX2IP#n?)$8pG)XsYP00=$ycld0:1w)9n*/!C#BlNcB=Sc%pb3Ck$9=OU;vzZHvn.?=V<mn8>l8Wl&@-VyC:%OZQGj+G9CJk^z,NK%yr-!01JsOWJ__LHvb_p?Jpx%tMEwZSFhxv0#h<Z!ai",
    "wqz~txiAg.cLf]?a>S1zs/Hh:dSXPYGu$.+HKY.BUef$|_6X2!+8/VC2hb9JQOi9v1OsD,t)^Tt$r-j0pz_JjtNin.F1~k,7Qk0Ph.Ng<&53Oh.okYVwh@B;OkMC112SOg8pGFotThu_h-B*=VEC=Vr~|R~MYB&Q,!,]=Jsm1tZ1ikO[(#%;CHmo=:I9x1t/H$EXus-z#UVrBYQVHz3S6B)y5lpQVeuf.a:pvzp#LDpiB$-=Jd34a|_N*v7OG9kc/FxWcJ;~VXOl_Y@occkA@~a5@#((Q^QMM2U[vigE$f0I2]kyf0y+oDpH7@>GJHxxsM5Y+dlU-Lv9tDWrCYj)N]1>ecN-$~+yE*9WmAZ:JW$4hGFVqi^~]bcoP<C=nw_4vUbHoSE<Kjx>[LdCl((*q4j1YrAZv~/7Vh!.mK=C~uNBwG<iu&Hr0%2tUY;nvyGQd~=n_j0sepT8w=1AZTY/$?azXdrLrguyotUTfv]*l#2e@)n%,&OF[Z_<.P*Qkki:)]Q^+aVGf8~j2=-9I_d=l,?VcL0Yd>)nShongGD(Bx/(n,T8(,lk.y4%,<T:h:Li~6eM1ZOc6T|FHwT6ii4Skr.GT99nIn||!1TmXgKRSO@O<CnAs*+6jP3wRW5q2^l3=w0Jsx@NC;fB7dmOO<MUPIyWQ;cMq61~*T?.rSj?s38_^aKliO;^M[?wyiDh|7!9F?!-F[*atc-$*:*x#O>6E0r5QZFIMOz23hXfr];Pp@$fkeUk_4RevGIV?CtZFtXX?gkks:KsLM4O/;MBu#)#2@Vuc|04Bl8w*@z7J$4.Xnw+T=i<z$BJcFuu8Oh4.XaD/)B<coNfY*IxO[soJ[P14%BPiBFjf4ldrlNH[$(Za%HG0.,>HMe4>?@#*!jzz7zum;QX-ZZ?WHLcGo~z(n?m9H-s[e?@cd_q2Y39$)PdL!:%:%UK,W4hM,4mT;lBT.pCslyQwM3dq:0J$.ZDZi.N2GCIOf+NcN)C7=6i[<(:",
    "*_lgAcf.:BU90Vn(:3cx@k|>%Xsb&,L,m<^7@H1s&oEi_Q8YO;r3OOJ4/_T%etx|d:jfCaFa0c8Mc$-RA)%pnd@j3#+fRCIf<]D34I.qkN|SBN?BSjmUS:f7hvRaQeHlz=$SLv.|!7-J:8+3%iTBj;zf6jMaq>/t5(3*;#v2^uHL!i8k~BxfjwiUn)N:24h^GDvj(V]1v^Or8QgIBT4pf5J;xsOVx|Q;X1D*JNXp~FjMI%=3!640^/A05<mctTV~yeXb&c,*Nad6W8p:DrSv5]L]4asi9S2%trvRU|hz$0-RC(*[sQaFQ$wMpp;N6KOPIdM@$vpk*L2C.JzGA_d[<x~rkpNty@CVn<,+gq#md,v.d]FQP?:H5PyZo1k7pN6%fX[%/@<z38(->xAKY8;Szb<zB_xpTQ0J8H5+8G|Q,m6;k@Hyi&?M7l8[5T_[YJ!nRJ_oZO0[m>EbNy|N,x/q~q=*E,;4?s5Tu-qfeUS.EogSB-0Hi>Y1vZMtuY=1XOU#NSVex3ZC3S_;/!Xy*#:-inhu1Ny+L+zvm8&I@MDFXHU9A@v;T2p,ms+:%nyYOG1O|1Fr>SAqfS3Ip_sv.fxq8%-GJO.wjJVEP*-.T_Bri<5#du0BawjmD[zf_dSvv@scX:t/bY;7qgAuT~H8FMMb;m;[v0@e2#Uk!2OI@t[KDVRys(=rd)i?)Gehf4.4I)h~j?RWqQ7Rf=nY>(BNA(ndTLgS^K;)X*Q/G#]))5$puEdgdT.Sgq4@cyv-Tfh@kcG^L.]F~Mx!2_ZqC;*k>)UYNB#UWN1>AYF1$xmLJF5m2&D;aSkJmZ=8[y1n~,fLz8dxxs()KjAO]EITB(8&R3$qcPw)5RN>$vc&YJr>q?mq9.QAd%pke*iEiRg[>J:f7PJ#)Ktd0:GYn^Zwf8uR@;:/hN[A//3ztN,pY^]MsiuVA;:WQ7e[UD-uIBb8JV(.O:321MTMUAme;Un$Bstc-!(;2O@iL]9pjocMU*E1]M?,",
    "bYlr01)?#^>Y:*t|RF$6ixKo@_|>s]DfJ|AeIca(,tWiv:(Ey=nRP>wmO9[j1r+.n@9)RH6jWnE+YY,tR_[x1$C!(26v;Dy(P5f.C;M^%~:;M$md*zjzczXj5*.TKH0S]H=-9NSeGdAX#m<[0V>_4oc8&_hq?NI4IeLmH_ir0.0T/s|Xw(l?#=D_I~_,yk^<n*l%IBOVu7AP<G,%aJpfe$>BT(Z)dKb9FZdH~OgV?Bcb32R,YDM~~i.eT%JZ,o!pGs>&T#];TH*/qs5E)&h+E*1ln1jwt.l#98]2Y?,d.i_eC+q&6VEgNM4INjbCI=2-;AXZ_X@^PO9sO_bOW]fon#K^beAgpVaroa.4q:/e9[S!)u&iE/m>BuXy+yTxi$FSeEc[yMC)?5ELcnKxc&LV&iJ<wa%b#ou[WG.Q;]iJYh(Sg_~B^Me@TuR*&IB6*00~I:Oz~ZNktXR)ZS9p>;:tzslUiK~N7or|0fxC+1RjL$%gGL-11PgFVy!-h5FjF(nnXNiafL#eS5:>pu4*%/lx^7uaKJZ><1r7i-@sJDM+4!jTP<U<[ei#sky^/;C$sXQojp)bUse0@w?j6>iz9jq-;b->g.9>7P-44Y_o@yVC9|/B]9mSA]k%$wk#Adpbpf?%$uVp7n!;UjRL$I1qUc]b-,I:$~FPZ/VzP<PDv/cI/ie/CTIJ,!C#WbVGHsKPV83Hj4;yTRr.&Fexx+WJ7Wn?7>KqbVgQsCPKD$[[p&2Zp8gka:)1b/B[)#S+BAz[0eOSVZ~i0QCd;_$,]QU~zbl6HC&9^xZc8GFPjLCoh%-KQ|o-D-+LtGe2yzJ+rzF(HcO-<_*Ah,3>Ha2,_)gXi94@9)[K*B&J+Q8^5?c6o7n!]o,Jk0#KbB2vFzJr-vK_9!r<n~(@7)n?,I$-nj1yVikmyv_q4Xx(E.K<|*:6hES%82mQ9b$K$LU^iXtd:_>A/w?J$+I@.BujFMobAwI/=8g/LKz5[Xj|+IdBovZ,##ij",
    "WLvqKBO(ueD)R?J:V~ZvFy!VSP8r0:._TCd+ylgGh)43Dbk$P:52O[_82d#W/TUJG$J]f_iqTq@=%wxjd5sb7|?<|S0m_v)qWb@)2P<!:!X673LXH*21/;-!8tGrA|?n9][Jp~W@b[qG#ZPiRd(I/,8/8S(wjV&)Ji6mjv=t7z6ucZB6]v$vLm,IYA:FdAV#bme4lG-d3F6KOCcl++bCyRh,-_l6*,Z^+5aWhbu~wu3u=(?U!*CA(C|V[HoJo8j>1i3yyr#c,d9oh,W|naRK^BnZt<tb8G!#KHE7AuShR!d1G#&[yC3Je@OCh7Co|3NkExA|mYjn.;S9giqy9u](ZkMqXFD71x,~9~PWS,&bo-:G~,asNs/(BHIJyp_]~i[3o^K..P1>J=Vj=p(4l1h8aXR,Pp~:]RxXAH9c)!o_Z_Fs1t%CXcK[XGP>S6iimnKtFL/qD<J11(lwCaq8L/:n<-qiG!HB)~*HC:xzEudh3Vr3H1L=rW=[U]c3o~tu_b.~@E#*x?uiJX)[,J0N%%[>|sod4!c*Ar[u:&ECYpCIVj4*^SFhrejYAvfA-OklCA*k6N[?ZRW#x/!jogC:=M>S;SKv%OC[Py;%Z8l>VH3<Zmv/.u|Qr#,8Lkxx#HKJX8Hr|v5xxMahbl(Ucca26peEP~&f$tr@iF<zEZXc<vbuTkZX3SCncqT65EObB+YCHhfM6SHO4N-,:b&y_vVHRJ.P%dlKuJi?l<U>y>K1W]2%hwD<~slOp<(,>S1#-e5D27/E]nW|tsX$m)pw6?sMKHTi3v~XS2?,ql$RWB)x:DeYEp]*H>RPS!bf_[.<*0.Jk@(1F99:dJOG@axm#>!yNK;svE(g0qYA=!q~B.XPn7;(&B9Oss]^0aco(V2NU3?~kCMa3!V|HfYM:M$T~!3J7?w<aCsVzx[@G$![589_E/5CKf>vb#xXsX(Hl~KB(9R1C2~0_hEf*@Kr*~IUw/Z~o,eb;E=2!pB2Uh*]3)|lG/[V",
    "aMXI;Pf.|aJAx-2qEmb!/qj<*U-9j(6&w&B_QXq,Lx.n%HIz<.m;2tZs>HSse8]n|8W*#e&p^Mb.yD*w1IR-DYC|zSN00!<Zas~T!3YSz8q~3z;[/x65uZpY@(ppVBKqmI3lK5a*Os(_-Q1IZBN%|ePrD;sScFOJ=,vEIpw^F30kLN$Hf%DExu#/<f&M!r7MO#]%8s-KYPI+[z=|3i?1lv+Kx[>.;_d/Xa,~(!@6y5wOLUQn)_hl;S_|!hn@)nl+Z6i5d:]EKY(id0AE%|3/6y/?pfTr<VJYyDOgN,9^V[SA!7j!n!bSzYe%>g1hZ?ffJZ,e^*Eo&Itc(?F2qe*MINYkzxUfHs-&cCh$ZM:Oi-G+17g?@+UMzwkT]dK,t>R;|3et:k[V=i!Fjc6Cfx(hkr_/rtmVSp!tH-9Xf7m!?X|kTLjqD5zoN4Kln>e_m(d-^h<qH+()s]5cwX;uN&bG$wm?E-DKz,Y5NZk0tnS%d77=y35d_~w5X*?ONRoaCe-3=3&]c_<p&p,x%_[%0&ovm~/EgP*:!jjp_og|zrJp>+=UInWOuLP#I,^90!m?bkU:E(>SQZy*0~M(RB>J,|5C+f6SpOXKQ&0d-nyrc-nZqIQFbMRW?~Pd7jq,+1)YzM8OebSIH>K9M]vchY/HxeSO9aDxx,wa4=AhCNAjq;PVwE_u+Mvg|eq8hIrXrw;isW~QG_Yv@nkxZe*4h==>]2gE;@7T^TK.by/H1s[o^C)%n&QpO;h+XS*$h^&hu+&7eU+]rT(H*tK3~q7Y<xWY*q,F!mmZm),~9rVV079cSt+=AgKisT-0M#>lg8%%DIZp]^[PD-O1Z%=%~uMS^q6xga0$8m<G_#Yg*;[G~7jiE;t#&VhyS=ArErteu(&20UX>.-jKYC,ka?VHXvEHJvM+*~h#^hY!5TWlmu:nUF*>f.:A[liec0G/!mw/)v7X9N%_YRON]_BU(pCgKwO$$e=^OX9.S+1MfMG!7PH)L@nl1rF<",
    "6%U3*kg]NTbOG|9[$e(x:?V1rnZ]<wm#CS*u@W,mDy2<tBScl*F4d2fIY98M<I_5G_C;/Ky7!6BKfCmcywhAO2nq@Q]7*G*),H,8b|4+PimD~k#Ix~Gp+*|B,VJja+NLwRbOM[8Lyp@Ba,3J1(&S&W!9>QjXY6IM|bW_IN>yu3Y-utJ1W;F>)36t;W@,Kn+;?2z=diwNy>?0X6iE1IkJ~XTpV1b?2NXv+8~E@k7V|)+qN*.#1(a&|2X4JbVGegNg;p?mw(=,%RxRo])PMNb1@w:[@_=oE)q1Y9c?XR@fd#CtBL!(/xsyh4huzuyzd:F:-%0@]boEoBTuL,*ja?,<(Q6FMtcZ>LGWOm>@C_%+)HZ<ABKDPQWSPeRpIos8Sc|(<e8dFd?wJVE!=hJ?MfYlKBz+KMmWaY3-[<M:fpPGFIof+%(f!@l4K;d#!]Mj~tJzxMZfZ!u9?TyB.|ouLZ>lfOAchY;0<.MNmZa:wgCcR]&xr@[H:Iyk/O.t!U%C325P_B$7Ph9(D#@uub>~B66)e;B~lzn-0)]fkE+v8Yf/fAviL*LWSpU:p46aLYV1uI,lZaWhp::Mt@w?=Gg<$%VRbEz0@@M7v]<cfk8En4-9Xql0j7%*+O$BaS.f]n^c&;yWLdO%xVgEVQn@U*h8ubdt_hXLCWfP2u@1.@8c+7CD6$]?4_bEHx./:7PTDl%i[[[/qs/q8uzr%w.DfaZ+U|I@nD;Rd)TxN+QOR&ebYDQ?$,N=dilTcrO/0K@-iRaBNg)cwHE?,o6REf7hz5@<#|cvtcETlZ5u^-2:|;DI+<Ea/rXwCioSRY?)Q*c@-XrBC<ceWavb[&!PI29gY1W1E|]E=sG6>P$KaaJUX9Q!F=0awD*pmYl/&a&RG2kRN.%+Z2<BdS^%sz<)9,KjH;RQcxr$fUz#UZ&&ZG-XiormB<,:#ka/5!=Kp9*+si2vQ;#c,bnTkTM#vW^6FB2leRux@Ski4YLVuhyl%TFOHH]SQ/J.",
    "n--F/;sklammX&U8i<!;=s,vSMbvck15/ai@#LGQ=$N-IR79B.^71RLDk??;erm*|Tp(yT2I~BOqT<;G]_).kkB2:8>~V/fPH*8#[bnN?TAM;8<!6>S5x+V94%mSQ.#vW;=t%zD/b3~W,h:RVaWq7-e(-B+fRN4G?BYxbzo&0M]I_h:=W65|<.@dvs@^|8k>gHM7u2*l:%Rl)e:tP.(E*+~,_EX%E>F][]Y_#r3T@KB;f9s&uBovb/CyGE$cxR(8%9f%$I|he11dJMR6$UR%tg(;U%Z7EUC-1O84^S#QF07-1)XeZ]qt(#ar5G|l/@?A$=Y@UeN$!OnWbH.sY2Lvr:T,03p[:3/;Em=%Sc$g)qzP#XTK0z>j9u1P?zSm:wj08tc-LOoQ1xD&:yJeEeJGsx+lLD0aDM0i4gL,xEFCo#:GT;)uUwiUR8U4j8O~rYvfpWC/A@B<~coRjxfZSXbq*/4T^A%^),X8S<n<=Mu3,RPBY;[8sJHfon6La5[KCYuoHtR*8UM44F$?D=QpO^#et,>,;nj;GLB%kNuu~ZqOBV9%K)(sLF9Rnyqo]4g6TM?Ied7aQ-4V?0yqBRnjQ(SC>..Mp|CLMhpSO0la7Bl7Is-T$+i-3?-sw1vaGK![&L+PQOm1yMh^lP$~6#NY$)zwtZJ4/wf>o55?im9YyPi(KL]sVlxHD;KjIj9f%atDSr+i*88KJ3/QtS=^aDn~[by:s-riN.m5,c<5$Bp726wY[9jr]#n&?kmwX|1vpCTlAdAQmGGFrw>Ble)Vhj@e>O@[-(~BCMT:xM9R4;q1JBxlCn1tOw]@usaxZ$|AFVcC8j;bHx-1a.JNl8$<kkdRU!_2X[Vi=^gSSW9EK.iFXDWH=hanYg9-7ts<QCrjbMr-wK]G7VO?|(&[%Wh+9m>!1KiYo;T!85/cUQJw#.qHg.x*xl%w%3u;*.|!uJwaCrhcUlc@*sDq|(XpiSVE<DLgaN=@-!@mM=TNI5M]2fDBD6qn",
    "b_Y?z&P)g$yu!H3PwTOH&IO#wuTXfbr)L!|a*:sVx.#Dn%kpYyE~u)TZCV;ZLCG)H42jI6-PL+@dDYe2%4KZTY/ZA/5Hw_&:jEeTC&C+:sJu9d!9?Z8)A3oA8p2Intj5;[GSNG8z+hHOkHAogaDG&=?K-S*<p^O5)ft;E<CKHv=-XA1f4%UK7;EFln<y$@t!7F61C!$[+1G%J0yjWE)*/7AOIE2>Dx]()3g0U+hROR_,YP#R(Jt%@8hEHDk,)K57BW,dC,pSBq<sb*$<X@5%xI/~0t_*c6ZbO@i<yeHHD(<e.-E;&^M*Oc[o-$+<%]|.D..qd:iGV9xl7EG-u;xjAJVO|&&<n)1?s2L9m6U/+Oo1IJ)c2%&?gH/W&!;S+[ZWJTv6z4wlySY?1X11(~:hz1kTJ*@-k=y5JMs(],4v1yO$Gs,MzAH6@u-V[Nap!>Om5$$&Sec,@ElTx*7#0>6LOCc-Hb$i+8gQ9!ihP>VPEWMC7$LS+eW&ZZ-mhIsLPLbIsI&Q%*?07!]_0e!FXj@?oF;?L*wu<?LUk%wmPZ0(mW%qs[=s|_ikrwmkjcKp0ES62$y^Fq[6@/fndnA^c;HcDSu2kw&qJ4@l@(D04nUF*+VI-V|<i#Tm8WG!ko^WyA^trtu2z8KiAn?UbZnRIUt7<^7,I-Tky?Re;hF[-O)ecMXwZ2CVeBFW+isuWypJ=$C6mD7*0yI#S_^Lt=a&e]P;KH-[xV*k(=Xv)**K=CNI-ImNP]lqB#;&PfE~+;|.6c~zyi~ZU3si~QWHN/gX?i?Xta/m!d|p%v2vlvKI_YB-xM^pjqIrlC]RF4Hl#vUb@j!GPNnqKFJvHbd9k9Z.M6e@2$2l$9JS/7#x0/QSQ??g[-cW[st3CIhkUMXDpV)~7o.N,vUgM[1>1YiAX=41Ipw3|7:o!aIC8sY>]WE!RujE44W4O)TAS#u0w;TA:-]^q~|7pTAlxZ/w|=%;<8?lba!5|?tBg+-cU@mL>dX@~U~~",
    "ghSqz$i?(;.AcPT4Z+FM8#&$pLj|Wo2s#akwacLq;y%=K_8bWydhn&+Uc76*j[M*!$nK@Hk|c=Zh~CMR;idY8CqQzOD7psPR|B;aRzRxf5f:0r(Q0d04&<X%n=QH%WF!s4RtEZ]pC>8*b[Y,-:4./,P0a-/D|OvurTqNQT7l>w$xOHNE#)tDiz_+-,~3Q!|8zpq3^&b+d@d0HP@6=7265CvJ4#gV!kk:!71O3TbL3T|7zS_:8WuAh/F7a9@!naTIzYa|;>Qkj$%G&Z&#M;j@jUp$=1p+,UrLi*+Oj&dLE]hHJ^4b>LUG=Q2VbH!Pyvey*|W%IumV2g45]u5v0[~[HldZnKYM$]qibDHIZ[mM])AGyp#Plsvw,Z4$9HU8d~vk5b8u?tHq>P_4wwK47]n_LPr>jT!I)O30dT:w=dWtvH8~z|oHZS9i@oOo>@0DbWhq=nr_r-zrM#hOo=uyCj*<es/Cf;]7KjSRPlkbbM:2H$H_Z+*xK&WM&~n5YcR=[PWN~etI5)b,XuJr@6|Nzb@Nmjv_-G4NdT-g&z#F-I!_*Z<MP40AIYc$iTf#(hQ0g.~56c-lQ!Oz$X#.|/WMg0q2D+h4QB=Qd!0r8jlL?eUHL]w_B9FG,ra]H6&#7h%YF>4aZ1(U]*+1hLMB/u4XiW;1;0!TYuc)8RW3%ril]#Z~5Baos+;6IK&yA=ky$t|p2jVq):<jhu]NbDCAI>U1,P,M)2~H<2u[HLy_HT>b!g$oOi>EKXWUF,J1~;E+%w+Yd:e_v9KXw5?asJ]~=[Zo0%,L^HWa^T+L@f@Q!F9;xX(obwBOtD!L!u~&:TJ<k)iOz:UY/pqjWt,N6Bk)#GcGpj]]F^p!l&h/drpO[?J;7f~~k9u_UZz%:QD,4p#GY!Sv1.Xz3BB-(2jj)|urzG&mpLmz9d1qn#1f*xDoR<981Kj_93mk)#$Qsza>.K[2r6P-Rg)=F6P|w6MuRiePbwlLE[=Y^K7q9)CtI~M46E)/+-En",
    "GExGm0cDUIwBPiS[oOe)o4D9kH14U|u[=YMBE;?zYU[243;9A*uPWfHV[aS<wb1rCGsi~G4K<sHOIjQAglJjxk_6t_u?xRPF+?JYM><5W:.]@t,QGEnvXB]%6u%iqu%-P8r&|.-DIe$gd.u2-Cd:/ZHWp7Qc@z[X/~m_U:MVgHKeg;^b8PP=jfW6GK_89C&[XR49t=DT4KjM]G(Hn[:QrX2EYy.wW~$_hD&L9ky[zl4+48AO3*zbVSci+9iNDjma:n?Em3lkxC0BEwZ7cYkgE]fMJ&JlbNMr_nA/h%%lKW#Zfnyt^R!r-M<!l~z?Gy;Z[E7hB!|K((WXN[7o<j5x<pq:4c3o:ON~:UiEZpP<el8f>~s#d2!)JO6Y4IiSf*w+!Xo<96Jbk;|cX,(EIQcFlKzKAPg~s_6CMj3GXuP@d3J-H+*/r>wbL~@nOe)Vd1RG1)KIUz)Kdc@h%nE~XT;y8LmHYW-Y5hE!?kw>sMM-lt-7!<z2b:hIeVj&6PRUZ1W:9sRxS3r[c-5F<8g*-O*GY,.,oB&n>AjIm0~2xcOmRoX1?l%Pk@q)sBDk&n>[WD:!b*2rm,e)wJ3W2/q0Thyew>AKjw9@bL7(*Mu8^9L&|[4&m&X]FUMtIxG>W/#Czpg@pEf-Vhr2&gWT(?o2LgkTGxpfT(b+]vZpw0a.G_YVa.K5D[Cm9(e%Jzbh^QgiKD&P0#.Q~~Ozm5<vC7T$1o-+fFbazM^Asfwhy?2nI,fJ4L*U<&-#IL19/+5R7Rk*2B^Na/<uXR*3R^oIs|6.dICj&e6m,Y/qU28~7_h2T$$6xiMl~)vn?v!jcsqDyjp>/ndR-ioZ<!X4LghmctF|BbT/F3jC3fh<gicH@G%N%*nX:[v>r!=Pr.3uHihhRC+u+p/&yB)3I?qzj3a?vlaiIDipi(q_%;6~%Ur3t]FF%9IvU?#cQi2LW_*yMz_S.d,95a|?(U^Cmrs3zv>fj]xS.rrTY;>s$%k@v35W)@Q:!aS1",
    ")lg;Ulb)[gdwd)pE_aOAE~*(~g>J?5-,Q3m%Ms@4E^73fm~5[Xw!(t]-O<_9ASvsqvUKiATpNH5hf-$pcAw|xwF~IzP[A4JCkM=uQd-Wc$AwaVLsjc~Z^SbOn7zUr>n-8I$)V~ZXHqpqC!9pj:vrtoG+Y+Z4F1k_&Y~Jm<?-DWSdZwQ2qTyfsPO6Aqb.&m>SbIeNp4Ksbt/GXjo:mi%qeF3EEvyIUYL$n]bs-n-c*TVpO+VY|TSZ1k$gO5/|:[])YY!qY!+uF/xJKKAsUOiz$-1E[%4x_6LI=X@.]!Ph[Kzk>%[:Fb8-h22C;stVj<LIxHjAxzG=I&+t0K|Uwrm~J/vI<+=VIK4x^%IOSc,0j2gfhLSQL7Ngv,.pa0Jrv)L0+RJsq8PLpjX49>wngB8L#[UpUHpT=UX+0qfHE1)P&toOHqlyf-Nn@kUL0oCm<3@#0+l-ASzA-$$.$W1@6A=:K/e~#+W,]3o:ysmvA#x>sL25C5Gg%.AllE=CopjxeTb$M_F51#anCw(cYdm:mbFqr+ziu2O[J~;5E79ZfT2bFhfTNF@HW6zb+M3:&:qdC;><?e]@x%8:OJk-7_8m]Jc=-L%uJ9Dj7<B,ok<=rT|xPS+]q[02x;yfB!1O7z^v^LBnFZB[|D$4x*=Yjfg.s1]<_iBW+xoyyFW1/Fp=EG;1P:9[D?.Xp7Ttzc#:vEFv[JxiaQmrWhH+~ENCFg@fDPczG%9O_:BxE*GDd/h&>0@S@^J^xYce1lOWkhYHZGi,.GzJknSl@q,;J(g8@KJ[5QSsl,M?eBIbnU:^[CzUsq?(i$cePIhl!L&wKsWz3e.!9McI3ao08&cs$&mF:_0+%uWz~F,?jZ5r)pShtnt&_]<b8fE.sIBdaQ&>v/HY6Zw3hv?Y=Ss,Pc9ku[va)5l,BhXKqpCJNxP>Zq!u_^I?#BHqp)=$[;/cQ=Az^kdyjGjJ_1A*KAq+mPMi!+@A1[ZSV^$!J$2B-9r87VoI*oy*Hw90",
    "aN]+e)qlgZSS?%vo&hwD7S:pub=3h)ul;G8NqhX*dQjb(C+p)[JP|bKL(#X!v<_12$DI9XYV]>^9||<u?PqJt^>epz7(0[XHYMhL$^B/7|aj&+$?d+i/+u2xR+1;u~nv<D_lJmJ*?.p|]hLDD[WBv<vr]ObKU2Dq301bj[VByU6CS_VcMw)cBP6~w!/[=V85,&TJ<u38C33/uUH45,E957-.j0):$4=9%E8]R8O#n4Op*D/v&<83AuZQHh9kq2qUH>FAteesVMK9_|vKai>t*quzG|~<j!KiAYykS)+!VAIN.*Z0mJZ<T<6Kz]]9E*d>tK5BNm7!x&gz>c907YV%mkI_;~QhTd1T.q@|IysrR~^AB.xCNnInzAJ1-k!Q|GL=NtI):(YnSITz:kGO%;ra@D&i^LfneVTJ>y|.hgdpdslb1i/5-#K[MBg!SL0I;S3xR,KUVz56$<K463!<R(6rz6N~!.v%Lb67TB/eA77*U[)HS1YrQ_zYD_Wf]Q@L#jy420-Pc88.;7|rcR~,U([Z!3WPl9f30Ys:*^!klID1.qCH9)wKz3]I&0uF*uqxHtmz=]MOI,%G5sZ91grVNZ9ov)0b:,?Ng=:xlAmK^geR6W=)K|@4[#Gf0Dneoi^d$Sr-q>08OXiilHi.kE3:O4ArGA|f,MC($|@>K2_uNPK1$F=e:b[o+g)c[9;vKUg]Efnp|i4-r:gR$%s]Y-oOo&?^c#z?2Qlt>N|+rN+a^-2:Kk<^cue+U+QL#l!NZ[~3$mX5GnQMJ$c3a$l>hKm(a[vS=S!h]JJwGSD2_n%X6rOyD_K$>%PM8R5lI!Zje]tEh<#yL0~R-p4R#O=q&7fAc/B!XBK2C<%Z@sHk_o?zjhm%2_%x?+*r%8wQ6Q7c>1AHH5G1aS[-^ICXiu3.xP=hMZim-cHDjg3P;<,^_9j)s<6ZsTlFCZ%s,;OPg4Y+B@3Vcf|+UP)dTl+3?1^rI/:8DD[#j)f.?C1bY3E6I_/~$/QW",
    "Q$L@-wz|6<m?%9>P[y5&Tjh%Zi3Z2@[kNs6~Mq*cfOs].nv8xyh)R6HkC6QaKUAipO,P>yvCW#XeUy5g&^gj@MVE^6*MfAI4gG2=3zVq@JtnH|rOtEx8],(DHqeh&z]nJb2hElvs4[!/up<;Q<sjJv9&VYv6&]t^FtCt(kQ;W/^LQ2f|IlX?o&uPz[.K[Ir!A]M><|.z^iAC1tb1Bh6v1vdW:<SegGKlCyTr9_<@#l1GXkV2x=GmMn!^6L]B9M-=Ta?(6uqsPa<ps0h%cwUMk:GtR+H9vN(oMNpQQLI#NcK^V%*:J!<b,1t@1*ED,y@SA2#%$%g[,Jnw|3C>gx=U@PV;Y4OIcSh>#3LEyOgTaQ<X:<@/MD4+P.KJ<*P3CmS?Ma163%+KPaAYks=ZV-)WikcoUXR~AY$K?F<HS3Lg.pzr6t[z|=~G[=Q@|sv.)GZ8CK@%DU;MRi0citbwdrPe8Ri8xOQ-Q?c|3&FHa$hC?zh#S|ITivq[A9VATfbn3=GQ^U=XNnMFK3SLm.XQJBDGCABRfF8eEAOK|Hek:[8Hcop/9>J;7!mlVn-fB%841UK[@ZS-jhF8&ZiabPiB3N0TOi!oY4<V6VR5.jk7TUg~-i[1O^3(ZrCHA%OVBzCkGLm(z,o~m@<t!Z#7@Sb+Iaq.fz,5jRm$+CBd[W9=<-,jS:IVxb)XF809[,XZtw4a/6I9m;C8Hd[n&-=?5%AD67I*el49yRRhWZAl$2F5Q>A5J+GpeV1[1v[zHL$uIxZ],OC<b@]1/_=9+7dPShHi1>e0A=k:8;ap!v0v|t4nnQ5vZq#fL+HP_0mtdgSZ<dD9Y<$UeZmg]8sP-:fJl1-p&N?sBD>=LWNNkTJ|gPN^6%e_[q]/go=eS=lEd^i[Ws|IzQ@cJ5ai:&[!#rttozdsMRIkVle_,b5p0n<A#)?E_82Z/D$!7<-F_yzii>w.]Y/~mF)Z/|_]Wa_~E1$v=nu|-.dmF>5<b@,(^&W1K@s)+lPg",
    "!1vC:o6s5egBWNMFLz<k3V^o#>P9gb/fn(v;l$c=67uGN_~V6zfuB:h2sK*zZ@.tSiv,KvEQG.6KEx<kUh!h/Q]L_O1ZGHKBz50$mkyMr;La-ri$BkOz62<#1vQ@-!14du:GaZ-yV$1_uc&?.3TbQ@3xOWlTK3vLr3y$nRf[?>uP0Pxw@e~&:RpCdL)&#o!a4V/),dBGm-LHgrpop~^E&nW.dxFuZLDv!WP)2W&^4UGH:%L]U#w4TVh|Oi[5hs6/)~jf5|DI(#eq+Gqi((tNGYxQJVl&I8w=@OZ?VcFgaVqL<M-zzi[HRek5fa$9r&K*xUK3miAZ2CrQv>(w2;yz2f>bGo_>e[>F1+3w4)/H7:&&hEq?kS,57TYelocG_!RikVDRmMhcPx*4VOp/PH@Oz0&s2m~tEm~X@q?>pcv><u==^K(~o8s6^ex!/#g9m>RtWbyvLuOF8s]s2LDSbYk%vreH<9Z/:=JMQw&.S?)esmvMU~r/eWk3jb$~iTINJ&;FqPJiG0bW_Ff7FR,o5AP-,|O~;]yQP_ls;M-*:lXE<ibN!JWfF2#u6njY=?P6^oeawk[zo9ae<eqibiR2k~qW?8L#F^Ny&XMChfj09?]OX_K*K_3[|u4dK<Q=2LTPh*,_X%W&xk+fz7?sr]x-fh;q;4[ON9KY.%%-#G*bUp;rfFyE6~Qxl>Ra0d$O5x;#^rYQ|;)~gXE=NUE2t;dA4jamK-EHLAsJ9czIxF3*_O(WBz#z]IXqH]qONChDMl5W4!hjYuGd#Oai>TLJE.t[P<0t=GrkDb8+Z&UqK6WCq%vx]A%)+iIHs)O1XD_BXP3+.HRUbxm$i(D[~7!&;5z%^hxzd|~<,iR>r7*jViz6ztO1(:FTVU:;At]OH[6B6!5[(@Cf.urtdFV8JD$Y_#p|M[ZGAgfV;?caNLZ6-c|8tKTEpoY5eFv.(T+_*iF_m,S6.L&>6lThUQ;~+c~qC%?Wd^=jg@DOgjQ]>C,Egj7uqXW<",
    "=Ge9&dyJRB%PU@kE2SzJ|LrYg4wYl>uD@A)PeL+hi(j@Fyy|>v92QE^|;AVy9mH(E5>yoUSfjUcTi!]va-S[E:S(5w8tDtNV#&^~K~a0uR^>@1-L2X%J89p@2L6jQw5LQ:U|OTd#/[z_7aLSyp>-l)a?OfnP9c>Z@Uaal~!4hj(4po0M)vlD)_D6bAa#YIH!NS826uwkb_1>&8=Cn^Motgu8y[?MFUUPn>(!_SyLXgaqDbJ<10+B;s^NKugF6yisFdQX[zLh<msVG!RpP,?AZcZe#Tka#0fJJthKBrXuTx:Qg]ZV*x!%^g|Xp.%Eiqo,r_FV_a5T6ed9hh*t*7NsL/7@DP>75k/cs]6dtvca9=ya/OsRx(HVG&/66T@Iv*?>p=+SOI=$p_s5M6=CaPviW3;ihi3j!)o:huD=1<=WuMl(^5[mmRD3)zKfCl%[$9I1&Hb%;;k|ij[+J8+]Ji6wx3iM|zCDUNdJ$|[KgUrt,>,Qr[sT91b0XqVQ|dl=jz*w.zY[RDG0tNkq&b.vxaoO*lh_Np|NY)iM<0JB1lV5yVx<VQ7RK/;7au3ZjU7,A*%8DMo_J&04KVRd.-ysFG<k~7)7mF2&)CYB;x;^U+/4/_#Ba?fhQn9p<=Jw!2#0absZ[7Y2u=Uc<q]|:Kn@].*prho[MY)R+CIB>N($rfkJwE=8Abz?+$F~p&BRC6;m%Y|y#&4js2I)17u]z2+,dc7n](bNV)E;8B=kW]Bo!~.wRWE:e#-btot0J0N/dX|>LI+$vL,Z^yKvn38_NM8~/7-%<<N9^@59=HHeZ-UfIv1xevm^x<V)%<q!Q@pO1:$3-Dc-ytU|bOEIT(-P7?ul@(tZk^m;^SKo@J=-<Z@>wY~Se4CcdR(B<sG242_kk*LTeG^YoI~JmpbhfFvzA/toPB?>DbEV1l/6SUHpI#%b3+BL7uhar~*,]!g:!Zm6RdIqE)%9_PWQ+hOR%Iuo^1;KQykGnhOSw5_oe:FV//Q7A3eU",
    "G$7|$Q29PqiSpA=+gy?H)8A%CH).$oRJV&qF)*E(d]Hz:[1@=75Khz4<:CwpinB;Erj89+l7v)w|)z9_T!KSwtKZ0i||RoE-^?N6ff9p$P[%bH9tpF8ew9w!PO]YX=R5FC$nW*$H9fyd|HgU7,2vB,K.8To~LKW)+kC*~80a1vpVhuAEUQR#+Xuz%JkRE$tCR5]]j(98L|V-=b+m(T|vlb$hF|<h]Wc7$_[n![0n~4SAp%8&BbmPXfR,xzxQ4^*EME?grgqaeOLDD[pSkC+%b3diyImAJC+s4&fq,abKoWHsm(T>afjl*DjJ&1(2R7!Tn7.hsz;ZeF2l=)]1EhxY6NA)l%?;6.L$Q#wphuZV)dQUjO0eRHarQUl2,.B(bzzxW6G>eDK6rIGXPAS~6z+4IhPg!4aWTTNPQ8XAXM+Px?+mbz47%:;![vsGIf7hzz(4-@D,a,IlCP;$CJiY4BNtVXv)n#!2tNJ2|AX2rmYo5@cP>^M>w@mAlP*l37.#tW:0=.c/?G8l7to#&9=7wEs)08]3o|wK=A3zE.-?;avoo,n)W<PFtX,rJz1lo|<!:I2O;Xb=WSi[NAM@oP.-AR7;.=0I(owqNC>NINw/G<9Jh)8@(?7nxuwn_N@(@7rp,HIREdy9VT0S|:w=k&fdZ%Ts)0*_o*KOu$;1]m[4]zRnXgn21f,$Q<J/dUa3FTOMTI1qY4OfZZdsu+L-~1an</y-eH5q^GrW%?;abF/Q,j|[!IVR@7S#9&t7k)wLUGzHfFn|se?UfnY6qKbyE3@=ki<HQk!Yt5G/*!I0ANsGrq1nK]M].Eu/FSjRaAKYAk#(yib%<6#,dZ8l-Z@OHDYm-rsF2>GyiSZu)nP6vEnCBV^Tu7&),iaOQK+JQq=>GTxJAN)M=[;/6+b118X=(MD@wX|c~Ln32LP8H+h0aLG-SY38>LC)?LmEb1)Lh~]>+4CGOSZYH0,H2x*/&_*.!_|v3MJ&;)EA<^-s;Amu:$2led-9",
    "(QX_q>*>].93Q]*EdBegmUd**;^i3>K-V5Z/no&|f!(/BI|;A9An4;j?PIogCyH<gMyl]IE+y6<+z85~&_sfam<XBy&S<V(-fgtUkaC-*;eT;Mc;,OP2.A>-WvB6,Y&_1oodRL/j:2*8%XR|~DD/MuG%dZc:[9,FEx7~(8]<cjg!SugC|j#r-|tsW6i!6z@m*V-0qo-:I!+#-w^.6!UHnZLU]j_E#*y/r!)OOk>5Kb.A/l4CM[BWZC%bEH@zz1G$2-?mNF]g=Wf@6%?~T*PMQkOQGRtvYlO:bu3Fsyh+gm_O!_4=.M8AyPKl,P#2w&Lmb2h(%yQwmScmm_5j#t$[[_CSDFVsd:D^;a)Z-&KsKK+v(eBnDd!%M=)7+!d-#,4!+|rRE04W)xj>wUkEZ*GRrbBf4h#564<+EDOo-!|Gp8(/^G;v+f_q&@K&Aj8CJVIV:Si&hR$UUZ&g^HH>k8L!3l2G!fCFK)Rzxz)mO1-XT1RigK)3=T>Df;)qB_We&q2sq(jsvOC*^!-7_%62:Bi=S&1Bl2w2][z>qY,[BP]weG++tB?bz6&K^4MTDy/1JsW|i3:wdBExfq,zgOhXVg|FCJyC3)SLYQ=0!yp..<>]kh(;L%M$0)b).w$Y,J~TKxB+Cgo[syxY~hLNJwU8OP6m<l.Ha!H;DSpall/,juJyF]i)a5]f$[kP)]?=f!v~qnxCT=5~4EZwwNaemQA9BNZl?=zwi9m7RMW@Zj*AtiS[bCM=ohgKS98FOn~)-;bhbM0:j1nE&JrenZ)(aLexdQe$pM^01Z@=rE%cfRqxhS7a7%k08;4R!&$0xV4V8W[SZ;[4NB<B0UCPXUr>;n(^p>MG64H)z4|y>V[CSx#$ID!djSoNO@9?AIBJ!)csy#Ju</_kPd4[c1X7b<ZOU&lL&>>Gv9]=me,[j~ho=Ve>>iLVBAI.tPu~*ZPM8o#v#ze9OV?kA/cK:@]>.@]42Vid6GsJLkaNntQ645uXh02|e?/(",
    "4at9@x:3?aeJq8Qw7Sq,nivCeDl6hxd.!N8+[FGpBAsuakB@r<4w|_4%EzKQ.xzPVZh.^!+(w>j!dQkWjKc#iAz@/v?k:_RPbgy?pa**U7t)lBIE[qH0gG*4EGyWJ3<d&Pi(h*V-6<R3k)*hka-ht&ft:~]2RvhaA7c5[^JvTqpj#aq1rAD:pe45J&]O]%6JR6+E+=F(7~Opm._j@XYI@Ml(-N!$p%;9cNF304PHuT&3Mc>i(BX1|yptmAFQu;x:j0RcIS.6kd^<9g(L==yH<J6:mf67up?*eq]6p]AJPWlIVHXr)q_K-2_pP,eX_Dh<T*a2<MlPv?*wEm$^Y$QOQ|!__G&IAVv=vazXu^J#e8zxG*ApcEtEj1gSXTE)n$iD_uj-H#oI?N%p|NWnbyHqHmSO.$<oJfCu9pKA9*NymA)oFpcak=iX[TMbG%Hy3,Ju#U|#[07ux%eSXe$Y=jk<wqrWzUy!>e_NNxv6G4URfMPt]G=/$$wX/mIJOmwK%E8SYABrummHU+w6xaU$gBoS/Ky-d;1J|gqGfq%4-tog8e1Q5G/@Tgx]c0U3L$Vs_9S]tZK7ID+>]Nz;5ERrGpWk/:Qw|J>wj&>qv7JN9o4(ncQW0+Rtem30&PV4_v.[Q=@$$R1JbEI]H:GF|H*YkX*aG<#|M;T?=Db4R_UV#M]Paf>%_p*&qQ&#Im$_|iJV*RgTWXFW$>MrKTC44dac2YsK02:5L-2pr#oQ4ttH2H:n5OVNuYd3=eTw8FPnsA5L#Luey0G-P[/ayb2yV=1|^ST8v8)f!e<Q&K2jd8(QS:sk+0,$ee$&[731fvM]=2CfX]skwKzzB#s&h,sv],tEC|+@.FWFUqB/<Yu,JM)MAnIV2(L/r[6OKp+0ystVx_<!_e%M/!Mjdm6cELL)@N@AMw.m~!Bmdw3RY/q2|b)>felN0&saK]_~j.W+d%$rZhQni8eh=NxfUC!.hJQL?2Z[BE?<J%&oK5|RGKRwwO4Pu!].",
    "Y2ot3N.1&e;[]*jTcXa-j2eh3LwskAf<O4k,>q)ra^VfksXyc%kDp2FyZYif)n.Y]^qwLCD#UH)km6K~8mI~u%HnZ/D_>LPb?m=mw-le$ffro;@<UbM^8L6CF7d/M~:=[&8?+x^~4YAk&9Vq2Qb7j-8i..VB:=sTM_yH@%o|hgtY[|^m,Y^.(35|-dNiWQbktTWxkEc_$7./%kOmr5&BI6u]2+vreKrRQ;3u=A7)8zz|I:af|h<Mk=yt+myq;~$<2Rk&X)Y>S!w:;rk?)I,fb,l]2.RKCOw9Do<@IgNd/1rV7JlNEia?7&lrGifG]TFjc109?36RDwEw~OJlb-cGWWSf_?95s)9h*@ATFz)!1JgFJ!8C~rX_/5y:>:UMWcH9$-[a6c[@hYD4Z2TiV15uHJhjtc!v6]4-wcZz#90YCyV13G<-Zo.XE*prM&7(pxTKKhEs8|@+FyD:h4,?xudf8GKO<%*Gy2P^h>kVJucedW?^R8jS~NgJEJg4h~|LZy=.S&0&]HSca~B1l2e%1/WuU)YMq6qHgRTK_.@T5w9%I1Dm8=C,;+!9e=e>^5xt%#GSo4HJ36)2$~U19rcomslzyGr3|lX8EDB]^s.,3H?kx|<6NH>8oI#k(3E|ZzER1yb|N]ki*td=Js3d#O7V2K)Cl@vC<"]

/-- The names, in order of code point, as codes of their words. -/
def nameCodeText : String :=
  expandCopies (rangeDecode 2 81318 (String.join [nameCodeTextPart1, nameCodeTextPart2, nameCodeTextPart3]))

/-- The name aliases with their code points. -/
def aliasText : String :=
  rangeDecode 8 3575 (String.join [
    "1-,f(iv#r(7/J^SD&hg7.EKxZ?ma]T80l;z5F$Gz1kZ^Q4Da$G:[qSqN~E2n.F~K^X)).]HI6xmMQMP47!U5)+1X)v0/U1X7gpn;k7KdUvpZ$KnTFl5+>BIti(+LXbp0k?:d7yw*3wbjAJ@q|/%$>BWzIFx/Ann55t<!AsM]a^a<dAiW1gb0)c<P3Tp;(KL|l@(HNA!K5uLZd|S_;><^wp>]OuPt&a&@#1aI]VTL?PSUULi-G2Z&DDO*.6+?|%8ux(H62+esnCX]nP8d9OdIOZ3k?doJkAKRS2&1*nt4:JLZRw##cs0xs[FYQRPckE~V(1%j&@bL,U#vbKxA$k?JWU3jJqf0[*Vq*A=,Rv_71wQmo9uBk$NDk9j*,h8Sa9U&&%>TGNvz[F>F58XYTFM0j)<8|2UK#n.iTt;G?r*gqD]Cz6IZ^:7Mx*eW<D:zDEv[~6K/L*Gy]Eh_=%51oD(Z/*@lCF;v]QSdxm5#kz$P~;[HVVx9P!>Uf2U6f)m2;)t9[bn4,09v;W4y;rO#~5QLNE-$w_CXMleqYipZe<5mf7HqX>Vrh7-eHyv3RVy.OEZe?_8nU.EDgg=/f;gt/qvoVQxBWJik(~$<]d*~gxp0&Hudd/YPi=%<gn:44]HrvQSL8-_j,Fw2LjjJl(t_hy(8ai(4vwJ!,J$B2-02&E/7$CyQ6FACm=ElQh(H;hmf!*Ro[I^-N5-aPipBpn:KJPwT%;/xfCIaR)lR8K[P>g@;N2?3E@0x!,nju+?v2Np_=2.=E,]1C=+8+Y/6$FDzC|&pf~:@yb>V!>f<dhF:au<-%miGXGKwN[UGy.2g7xoO%0~<XJ+/=)f1**56:G$~oEdk7L]d)[sVf6MP_qiHC;pq1g4)DhNEeKEi=Xi@gn5A1<Ro(v.m+u1bjEP~JPQ3,jacV(L*Eh4k4^0L8/Bc6BrHVFby>jSuU*;bsifI7i_9~CcnIR!sjM-&b(ed@eF8-V]U.V~eBaFg~cn_5DetPyjm",
    "kjs*ukSL;XG*;Min55[Btzp*P2@!I~vL_B,IB=@jkup-3f.Z|^5iVq/a@Y8XLG8ja#Xb<8*=]vB]hy^Qg?$i!#kj!39:L?,8*DnxSabFnu2fg!*iB~4c8v?UPp+!L=w4qv#Y@v[znn6^jxI9#b9YCBuNDvhh5A<a?m[E(fY:@65h8u9*eQIo4Fd5yoL$x6kBl!dq*qFOX2.O2g;V1/Q5o0m^V@N$!I-m-XwkZj!NvK&C9#NqdkGCNH%5r_~~h;ubFVRUSt]BK8L,KC31p4#;n[AFTcN!>,V5]BHaFuIF2<3_XtS!Q.k>73)CLng5&JqoMFzI|13x&=/ZYrxBF<s%rufq[r/m,6;Pz>Qx4qm_R,_?@8lZI#+ZKfq,TH-ZJ66]IF8>A^m$ENc%HRiGjMYVps@g2/Vqpoc&h#faLO#|ziewR1|ArZibjS~GT1QW(.g|C6.z(QeY2&Ykk*hXeu2DDh6<#/:FiXtY^J:^bG9izVsEb4C7?ZrQL|XjcX[Oa;AvlDv:y~Af&e)*dA1^G5e*i)D<HA#*Bmd$oxwu?JqBIVH8[)H(4^Or],>c=Z^UgT@:CK2Y5-5_eYD$qH5n;B:*Z#Mx0<PN32t)4;]=>~|*]N#^EcSRR!S~Vs/>fw=A#)Gx,jn>~T~gmLNdAF)<^jrN[O>c|&4&~,lx=2~t/3p[Gk31,QC>&PxeRH~x|YzHjg<l$]mEnKFKvC^EpH&v@TQhV$T>@zzINuluoZjvf]Zc*iCkS84!f+_D-*+87cJ,HE?]zXmXXoaTd]yJ~m!Q;gM!ncXeBBVnL+!ACdI4][a58bS~=c.;(O+XC@~qzd(kO[J&Jl7j:a;K._T!NE<<8-8r|g#Ctd],;xTN?VD0cEgZp%w8jFsAl;-|>eZc]cO.@sv*Xjd0[WxXCW[#9*<[x~<|zg1A0z$UyXy&e~1[:HaK;M0-9Q)!y>KC?2h9mL4d,_gP.g_Yg0~eJzuDe-g=k1R>Nf:_>XY5p++(2U!u#+B!",
    "GH^?gdiuOQY0>4%,me~*qUqF615?@Tiwm8uA-^S<FTQ>hTr:dXx&0y;^_DkmIv1UN8>)Z&FAqEv>=AD-0c[:uF6CfAO8[z#JWPzxTzG!5d:syr%/$at5WAi].;#riIU81Ubk8QcbO0A/i)vq8skFhH=,!j$=2B)a1b#$Z;4qKD,]pC+OirV|*Ws&,6n,0@]Pw/hfmjKy;JFGj1/_Z&!$|n101L<r1wgq&)/X?i+&8HtXiU[xC6Ax9%(A_1Fz?:Pg<WJ9NmK0W2/~nZh+Y;%we1y/VG(7fJyNF(M,Q?74%3cJ[SON~v$u=FGz_tM(h/l3n8K.Q>vHwSnE]pO[f|"])

end Dataflow.Unicode
